import FirstAgent.State.Control
import FirstAgent.State.Resources

/-! # Completion

    The completion claim, the evidence it refers to, and the verification that
    turns a Goal into a verified one. -/

open Fallible

/-- The Goal may be completed. -/
def GoalStatus.is_executable (status : GoalStatus) : Bool :=
  status = .goal_ready || status = .executing

def record_completion_claim (s : ConversationState) (claim : CompletionClaim) :
    Py ConversationState := do
  let goal ← require_goal_revision s claim.val.goal_id claim.val.goal_revision
  Py.refuse_value (goal.val.status.is_executable = false)
    "completion claim requires an executable goal"
  require_unused_correlation s claim.val.correlation_id
  Py.refuse_value (¬ claim.val.criterion_evidence_refs ⊆ s.val.evidence_ids)
    "completion claim references unknown evidence"
  let receipt ← ControlReceipt.create {
    correlation_id := claim.val.correlation_id
    control_kind := "completion_claim"
    goal_id := some goal.val.goal_id
    goal_revision := some goal.val.revision
    accepted_state_revision := s.val.revision + 1
    payload_digest := canonical_json_digest <| .dict <| JsonDict.of [
      ("goal_id", .str claim.val.goal_id),
      ("goal_revision", .int claim.val.goal_revision),
      ("criterion_evidence_refs", .strs claim.val.criterion_evidence_refs),
      ("requirement_coverage",
        .arr (claim.val.requirement_coverage.map RequirementCoverage.asdict))] }
  Checked.make { s.val with
    revision := s.val.revision + 1
    completion_claim := some claim
    control_receipts := s.val.control_receipts ++ [receipt] }

/-! ### Evidence -/

/-- The record binds an admitted criterion of the current revision. -/
def evidence_binds (goal : GoalFrame) (record : EvidenceRecord) : Bool :=
  record.val.goal_id = goal.val.goal_id && record.val.goal_revision = goal.val.revision &&
    -- of two criteria with one id, the later one counts
    match goal.val.admitted_criteria.reverse.find? fun c =>
        c.val.criterion_id = record.val.criterion_id with
    | none   => false
    | some c => record.val.oracle_kind = c.val.oracle_kind &&
        record.val.predicate_digest = canonical_json_digest (.dict c.val.predicate)

/-- Refresh the record with the same id in place, or append it. -/
def merge_record (records : List EvidenceRecord) (record : EvidenceRecord) :
    List EvidenceRecord :=
  if records.any fun r => r.val.evidence_id = record.val.evidence_id then
    records.map fun r => if r.val.evidence_id = record.val.evidence_id then record else r
  else records ++ [record]

def record_evidence (s : ConversationState) (records : List EvidenceRecord) :
    Py ConversationState := do
  let goal ← Py.expect_value s.val.goal
    "evidence requires a current goal and at least one record"
  Py.refuse_value (records = []) "evidence requires a current goal and at least one record"
  Py.refuse_value (records.any fun r => !evidence_binds goal r)
    "evidence does not bind the current admitted criterion"
  let refreshed := records.foldl merge_record s.val.evidence_records
  if refreshed = s.val.evidence_records then pure s
  else
    Checked.make { s.val with
      revision := s.val.revision + 1
      evidence_records := refreshed }

/-! ### Verification -/

/-- A list of texts as Python prints it, sorted and without duplicates. -/
def sorted_repr (xs : List String) : String :=
  "[" ++ String.intercalate ", " ((PyText.sorted_set xs).map fun x => "'" ++ x ++ "'") ++ "]"

/-- `_require_requirement_coverage`. -/
def require_requirement_coverage (s : ConversationState) (claim : CompletionClaim)
    (goal : GoalFrame) (mandatory : List AdmittedCriterion) : Py Unit := do
  let coverage := claim.val.requirement_coverage
  Py.refuse_value (coverage = [])
    ("completion claim must include per-requirement coverage of the current " ++
      "authoritative user input and corrections before the goal can be verified")
  let source_ids := goal.val.created_from_fact_ids
  let authoritative_ids := (s.val.facts.filter fun f =>
    f.val.fact_id ∈ source_ids ∧ f.val.kind = .user_message).map fun f => f.val.fact_id
  let cited := coverage.flatMap fun r => r.val.source_fact_ids
  Py.refuse_value (¬ cited ⊆ source_ids)
    "requirement coverage must cite the authoritative source facts of the current goal"
  let uncited := authoritative_ids.filter fun i => i ∉ cited
  Py.refuse_value (uncited ≠ [])
    ("requirement coverage does not cite every authoritative user input or correction: " ++
      sorted_repr uncited)
  let mandatory_ids := mandatory.map fun c => c.val.criterion_id
  let pending := coverage.filter fun r => r.val.status = "pending"
  Py.refuse_value (pending ≠ [])
    ("completion claim lists pending requirements that are not yet satisfied: " ++
      String.intercalate ", " (pending.map fun r => r.val.requirement_id))
  let covered := coverage.flatMap fun r => r.val.criterion_ids
  let unknown := covered.filter fun i => i ∉ mandatory_ids
  Py.refuse_value (unknown ≠ [])
    ("requirement coverage binds criterion ids that are not current " ++
      "admitted mandatory criteria: " ++ sorted_repr unknown)
  let uncovered := mandatory_ids.filter fun i => i ∉ covered
  Py.refuse_value (uncovered ≠ [])
    ("requirement coverage does not bind every mandatory criterion: " ++ sorted_repr uncovered)

/-- Every proposed criterion of one oracle is admitted as a mandatory one. -/
def requirements_admitted (goal : GoalFrame) (mandatory : List AdmittedCriterion)
    (oracle_kind : EvidenceOracleKind) (same : ProposedCriterion → AdmittedCriterion → Bool) :
    Bool :=
  (goal.val.proposed_criteria.filter fun p => p.val.oracle_kind = some oracle_kind).all fun p =>
    mandatory.any fun c =>
      c.val.criterion_id = p.val.criterion_id && c.val.oracle_kind = oracle_kind && same p c

/-- The deliverables of the user's text that no admitted file criterion covers. -/
def missing_deliverables (rules : TextRules) (s : ConversationState)
    (mandatory : List AdmittedCriterion) : List String :=
  let admitted_paths := mandatory.filterMap fun c =>
    if c.val.oracle_kind = .filesystem_digest then (c.val.predicate.get "path").str? else none
  PyText.sorted_set ((authoritative_deliverable_file_paths rules s).filter fun p =>
    p ∉ admitted_paths)

/-- The claimed evidence proves every mandatory criterion. -/
def evidence_proves (s : ConversationState) (claim : CompletionClaim) (goal : GoalFrame)
    (mandatory : List AdmittedCriterion) : Bool :=
  mandatory.all fun c => s.val.criterion_verified claim c &&
    (s.val.claimed_record claim c.val.criterion_id).any fun r =>
      r.val.goal_id = goal.val.goal_id && r.val.goal_revision = goal.val.revision

def verify_goal_completion (rules : TextRules) (s : ConversationState) :
    Py ConversationState := do
  let goal ← Py.expect_value s.val.goal "completion verification requires a current claim"
  let claim ← Py.expect_value s.val.completion_claim
    "completion verification requires a current claim"
  Py.refuse_value (has_unknown_effect s)
    "unknown effect recovery has priority over goal verification"
  Py.refuse_value (goal.val.status.is_executable = false)
    "goal status is not eligible for completion verification"
  refuse (claim.val.goal_id ≠ goal.val.goal_id ∨ claim.val.goal_revision ≠ goal.val.revision)
    (.goal_revision_conflict "completion claim is stale")
  Py.refuse_value (s.val.browser_takeover_pending ≠ none)
    "browser takeover must be resolved before goal verification"
  let resources ← active_task_resources s.val.facts
  resources.require_closed
  let mandatory := goal.val.admitted_criteria.filter fun c => c.val.mandatory
  Py.refuse_value (mandatory = []) "goal has no mandatory criterion"
  Py.refuse_value (goal.val.proposed_criteria.any fun c => c.val.oracle_kind = none)
    "every proposed completion criterion requires a typed evidence oracle"
  Py.refuse_value
    (requirements_admitted goal mandatory .filesystem_digest (fun p c =>
      c.val.predicate.get "path" = .opt_str p.val.artifact_path) = false)
    "artifact criterion must be admitted before completion verification"
  Py.refuse_value
    (requirements_admitted goal mandatory .tool_receipt (fun _ _ => true) = false)
    "process criterion must be admitted before completion verification"
  require_requirement_coverage s claim goal mandatory
  let missing := missing_deliverables rules s mandatory
  Py.refuse_value (missing ≠ [])
    ("explicit user deliverable files are not covered by current admitted criteria: " ++
      String.intercalate ", " missing)
  Py.refuse_value (evidence_proves s claim goal mandatory = false)
    "current evidence does not prove every mandatory criterion"
  let goal ← Checked.make { goal.val with status := .verified_done, next_step := none }
  Checked.make { s.val with
    revision := s.val.revision + 1
    goal := some goal
    goal_authorizations := []
    process_leases := []
    sandbox_leases := []
    browser_leases := []
    browser_takeover_pending := none }

/-! ### What the transitions leave -/

section Effects

variable {rules : TextRules} {s s' : ConversationState}

theorem record_completion_claim_ok {claim : CompletionClaim}
    (h : record_completion_claim s claim = .ok s') :
    ∃ receipts, s'.val = { s.val with
      revision := s.val.revision + 1
      completion_claim := some claim
      control_receipts := receipts } := by
  simp only [record_completion_claim, bind_eq_ok, Checked.make_eq_ok] at h
  obtain ⟨_, _, _, _, _, _, _, _, _, _, h⟩ := h
  exact ⟨_, h⟩

theorem record_evidence_ok {records : List EvidenceRecord}
    (h : record_evidence s records = .ok s') :
    s' = s ∨ s'.val = { s.val with
      revision := s.val.revision + 1
      evidence_records := records.foldl merge_record s.val.evidence_records } := by
  simp only [record_evidence, bind_eq_ok, ite_eq_ok, pure_eq_ok, Checked.make_eq_ok] at h
  obtain ⟨_, _, _, _, _, _, ⟨_, rfl⟩ | ⟨_, h⟩⟩ := h
  · exact .inl rfl
  · exact .inr h

/-- Verification ends the Goal with no authority left. -/
theorem verify_goal_completion_ok (h : verify_goal_completion rules s = .ok s') :
    ∃ goal goal', s.val.goal = some goal ∧ goal.val.status.is_executable = true ∧
      has_unknown_effect s = false ∧
      goal'.val = { goal.val with status := .verified_done, next_step := none } ∧
      s'.val = { s.val with
        revision := s.val.revision + 1
        goal := some goal'
        goal_authorizations := []
        process_leases := []
        sandbox_leases := []
        browser_leases := []
        browser_takeover_pending := none } := by
  simp only [verify_goal_completion, bind_eq_ok, Py.expect_value_eq_ok, Py.refuse_value_eq_ok,
    Checked.make_eq_ok] at h
  obtain ⟨goal, hgoal, _, _, _, hknown, _, hexec, h⟩ := h
  obtain ⟨_, _, _, _, _, _, _, _, _, _, _, _, _, _, _, _, _, _, _, _, _, _, goal', hgoal', h⟩ := h
  exact ⟨goal, goal', hgoal, by simpa using hexec, by simpa using hknown, hgoal', h⟩

end Effects
