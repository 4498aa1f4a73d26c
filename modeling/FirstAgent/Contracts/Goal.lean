import FirstAgent.Contracts.Enums

/-! # Goals, Criteria and Evidence

    The records a Goal is made of.  Each record is its fields together with
    the proof that its constructor check (`post_init`) passed. -/

open Fallible

/-! ### Criteria -/

structure ProposedCriterionFields where
  criterion_id : String
  description : String
  oracle_kind : Option EvidenceOracleKind := none
  artifact_path : Option String := none
  deriving Repr, DecidableEq

def ProposedCriterionFields.post_init (c : ProposedCriterionFields) : Py Unit := do
  Py.refuse_value (c.criterion_id = "" ∨ PyText.is_blank c.description)
    "proposed criterion identity and description must not be empty"
  if c.oracle_kind = some .filesystem_digest then
    Py.refuse_value (c.artifact_path.any fun p => !PyText.is_safe_relative_artifact_path p)
      "filesystem proposed criterion requires a safe workspace-relative artifact_path"
  else
    Py.refuse_value (c.artifact_path ≠ none)
      "artifact_path is only valid for a filesystem_digest proposed criterion"

/-- What the model may propose: an oracle and an artifact path, no digest. -/
abbrev ProposedCriterion : Type := Checked ProposedCriterionFields.post_init

structure AdmittedCriterionFields where
  criterion_id : String
  description : String
  source_fact_id : String
  oracle_kind : EvidenceOracleKind
  predicate : JsonDict
  required_evidence_class : String
  admission_digest : String
  mandatory : Bool := true
  deriving Repr, DecidableEq

def AdmittedCriterionFields.post_init (c : AdmittedCriterionFields) : Py Unit := do
  Py.refuse_value
    (Py.any_empty [c.criterion_id, c.source_fact_id, c.required_evidence_class, c.admission_digest]
      ∨ PyText.is_blank c.description)
    "admitted criterion fields must not be empty"
  Py.refuse_value (c.predicate.is_empty) "admitted criterion predicate must not be empty"

/-- A criterion the Runtime admitted. -/
abbrev AdmittedCriterion : Type := Checked AdmittedCriterionFields.post_init

/-! ### Goal frames -/

structure GoalFrameFields where
  goal_id : String
  revision : Int
  created_from_fact_ids : List String
  workspace_identity_digest : String
  user_outcome : String
  beneficiary : String
  targets : List String
  scope : List String
  non_goals : List String
  assumptions : List String
  proposed_criteria : List ProposedCriterion
  admitted_criteria : List AdmittedCriterion
  authority_snapshot : String
  status : GoalStatus
  created_at : String
  updated_at : String
  progress_summary : Option String := none
  next_step : Option String := none
  deriving DecidableEq

def GoalFrameFields.proposed_ids (g : GoalFrameFields) : List String :=
  g.proposed_criteria.map fun c => c.val.criterion_id

def GoalFrameFields.admitted_ids (g : GoalFrameFields) : List String :=
  g.admitted_criteria.map fun c => c.val.criterion_id

def GoalFrameFields.post_init (g : GoalFrameFields) : Py Unit := do
  Py.refuse_value
    (Py.any_empty [g.goal_id, g.workspace_identity_digest, g.authority_snapshot, g.created_at,
        g.updated_at]
      ∨ PyText.is_blank g.user_outcome ∨ PyText.is_blank g.beneficiary)
    "goal identity, outcome, authority, and timestamps must not be empty"
  Py.refuse_value (g.revision < 1) "goal revision must be positive"
  Py.refuse_value (g.created_from_fact_ids = [] ∨ Py.any_empty g.created_from_fact_ids)
    "goal must retain authoritative source fact ids"
  Py.refuse_value (g.targets = [] ∨ Py.any_empty g.targets) "goal targets must not be empty"
  Py.refuse_value (g.scope = [] ∨ Py.any_empty g.scope) "goal scope must not be empty"
  Py.refuse_value (g.proposed_criteria = [] ∧ g.admitted_criteria = [])
    "goal must define at least one completion criterion"
  Py.refuse_value
    (1 < (g.proposed_criteria.filter fun c =>
      c.val.oracle_kind = some .filesystem_digest ∧ c.val.artifact_path = none).length)
    "goal allows at most one deferred filesystem criterion"
  Py.refuse_value
    (¬ (g.proposed_ids ++ g.admitted_ids).Nodup
      ∧ (¬ g.proposed_ids.Nodup ∨ ¬ g.admitted_ids.Nodup))
    "criterion ids must be unique within each criterion set"

/-- The Goal of a conversation. -/
abbrev GoalFrame : Type := Checked GoalFrameFields.post_init

/-- Runtime metadata a model may only refer to. -/
structure GoalBootstrap where
  source_fact_id : String
  workspace_identity_digest : String
  authority_snapshot : String
  not_empty : Py.any_empty [source_fact_id, workspace_identity_digest, authority_snapshot] = false

/-! ### Evidence and completion claims -/

structure EvidenceRecordFields where
  evidence_id : String
  goal_id : String
  goal_revision : Int
  criterion_id : String
  oracle_kind : EvidenceOracleKind
  predicate_digest : String
  source_fact_ids : List String
  source_digest : String
  oracle_identity : String
  passed : Bool
  observed_at : String
  deriving Repr, DecidableEq

def EvidenceRecordFields.post_init (r : EvidenceRecordFields) : Py Unit := do
  Py.refuse_value
    (Py.any_empty [r.evidence_id, r.goal_id, r.criterion_id, r.predicate_digest, r.source_digest,
      r.oracle_identity, r.observed_at])
    "evidence identity and binding fields must not be empty"
  Py.refuse_value (r.goal_revision < 1) "evidence goal_revision must be positive"
  Py.refuse_value (r.source_fact_ids = [] ∨ Py.any_empty r.source_fact_ids)
    "evidence must retain at least one source fact"

abbrev EvidenceRecord : Type := Checked EvidenceRecordFields.post_init

structure RequirementCoverageFields where
  requirement_id : String
  requirement : String
  source_fact_ids : List String
  status : String
  criterion_ids : List String := []
  deriving Repr, DecidableEq

def RequirementCoverageFields.post_init (r : RequirementCoverageFields) : Py Unit := do
  Py.refuse_value (r.requirement_id = "" ∨ PyText.is_blank r.requirement)
    "requirement coverage identity must not be empty"
  Py.refuse_value (r.status ≠ "satisfied" ∧ r.status ≠ "pending")
    "requirement coverage status must be satisfied or pending"
  Py.refuse_value (r.source_fact_ids = [] ∨ Py.any_empty r.source_fact_ids)
    "requirement coverage must cite at least one source fact"
  Py.refuse_value (r.status = "satisfied" ∧ r.criterion_ids = [])
    "satisfied requirement coverage must bind admitted criterion ids"
  Py.refuse_value (r.status = "pending" ∧ r.criterion_ids ≠ [])
    "pending requirement coverage must not bind criterion ids"
  Py.refuse_value (Py.any_empty r.criterion_ids)
    "requirement coverage criterion ids must not be empty"

abbrev RequirementCoverage : Type := Checked RequirementCoverageFields.post_init

structure CompletionClaimFields where
  correlation_id : String
  goal_id : String
  goal_revision : Int
  criterion_evidence_refs : List String
  requirement_coverage : List RequirementCoverage := []
  deriving DecidableEq

def CompletionClaimFields.post_init (c : CompletionClaimFields) : Py Unit := do
  Py.refuse_value (c.correlation_id = "" ∨ c.goal_id = "")
    "completion claim identity must not be empty"
  Py.refuse_value (c.goal_revision < 1) "completion claim goal_revision must be positive"
  Py.refuse_value (Py.any_empty c.criterion_evidence_refs)
    "completion claim evidence refs must not be empty strings"
  Py.refuse_value (¬ c.criterion_evidence_refs.Nodup)
    "completion claim evidence refs must be unique"
  Py.refuse_value (¬ (c.requirement_coverage.map fun r => r.val.requirement_id).Nodup)
    "requirement coverage ids must be unique"

abbrev CompletionClaim : Type := Checked CompletionClaimFields.post_init

/-! ### Goal deltas -/

structure GoalDeltaFields where
  goal_id : String
  expected_revision : Int
  reason : String
  updates : JsonDict
  updated_at : Option String := none
  deriving Repr, DecidableEq

/-- The fields a delta may update. -/
def GoalDeltaFields.allowed : List String :=
  ["user_outcome", "beneficiary", "targets", "scope", "non_goals", "assumptions",
    "proposed_criteria", "admitted_criteria", "authority_snapshot"]

def GoalDeltaFields.post_init (d : GoalDeltaFields) : Py Unit := do
  Py.refuse_value (d.goal_id = "" ∨ PyText.is_blank d.reason)
    "goal delta identity and reason must not be empty"
  Py.refuse_value (d.expected_revision < 1) "goal delta expected_revision must be positive"
  Py.refuse_value (d.updates.is_empty) "goal delta must contain at least one update"
  let unknown := d.updates.keys.filter fun k => k ∉ allowed
  Py.refuse_value (unknown ≠ [])
    ("goal delta contains unsupported fields: [" ++
      String.intercalate ", " ((PyText.sorted_set unknown).map fun k => "'" ++ k ++ "'") ++ "]")

abbrev GoalDelta : Type := Checked GoalDeltaFields.post_init

/-! ### Criterion admission -/

structure CriterionAdmissionBindingFields where
  binding_id : String
  goal_id : String
  goal_revision : Int
  workspace_identity_digest : String
  criterion_id : String
  user_outcome_fact_id : String
  user_outcome_digest : String
  oracle_kind : EvidenceOracleKind
  predicate : JsonDict
  required_evidence_class : String
  binding_digest : String := ""
  deriving Repr, DecidableEq

def CriterionAdmissionBindingFields.expected_digest (b : CriterionAdmissionBindingFields) :
    String :=
  canonical_json_digest <| .dict <| JsonDict.of [
    ("binding_id", .str b.binding_id),
    ("goal_id", .str b.goal_id),
    ("goal_revision", .int b.goal_revision),
    ("workspace_identity_digest", .str b.workspace_identity_digest),
    ("criterion_id", .str b.criterion_id),
    ("user_outcome_fact_id", .str b.user_outcome_fact_id),
    ("user_outcome_digest", .str b.user_outcome_digest),
    ("oracle_kind", .str b.oracle_kind.value),
    ("predicate", .dict b.predicate),
    ("required_evidence_class", .str b.required_evidence_class)]

def CriterionAdmissionBindingFields.post_init (b : CriterionAdmissionBindingFields) : Py Unit := do
  Py.refuse_value
    (Py.any_empty [b.binding_id, b.goal_id, b.workspace_identity_digest, b.criterion_id,
      b.user_outcome_fact_id, b.user_outcome_digest, b.required_evidence_class, b.binding_digest])
    "criterion admission binding fields must not be empty"
  Py.refuse_value (b.goal_revision < 1) "criterion admission revision must be positive"
  Py.refuse_value (b.predicate.is_empty) "criterion admission predicate must not be empty"
  Py.refuse_value (b.binding_digest ≠ b.expected_digest)
    "criterion admission binding digest mismatch"

abbrev CriterionAdmissionBinding : Type := Checked CriterionAdmissionBindingFields.post_init

namespace CriterionAdmissionBinding

def create (b : CriterionAdmissionBindingFields) : Py CriterionAdmissionBinding :=
  Checked.make { b with binding_digest := b.expected_digest }

def admit_criterion (b : CriterionAdmissionBinding) (description : String)
    (mandatory : Bool := true) : Py AdmittedCriterion := do
  Py.refuse_value (PyText.is_blank description) "criterion description must not be empty"
  Checked.make {
    criterion_id := b.val.criterion_id
    description := description
    source_fact_id := b.val.user_outcome_fact_id
    oracle_kind := b.val.oracle_kind
    predicate := b.val.predicate
    required_evidence_class := b.val.required_evidence_class
    admission_digest := b.val.binding_digest
    mandatory := mandatory }

/-- Admission keeps the identity, the oracle and the predicate of the binding. -/
theorem create_admit_ok {b : CriterionAdmissionBindingFields} {d : String} {c : AdmittedCriterion}
    (h : (create b >>= fun x => admit_criterion x d) = .ok c) :
    c.val.criterion_id = b.criterion_id ∧ c.val.oracle_kind = b.oracle_kind ∧
      c.val.predicate = b.predicate ∧ c.val.mandatory = true := by
  simp only [create, admit_criterion, bind_eq_ok, Py.refuse_value_eq_ok, Checked.make_eq_ok] at h
  obtain ⟨x, hx, -, -, hc⟩ := h
  simp [hc, hx]

end CriterionAdmissionBinding

/-! ### Control receipts -/

structure ControlReceiptFields where
  correlation_id : String
  control_kind : String
  goal_id : Option String
  goal_revision : Option Int
  accepted_state_revision : Int
  payload_digest : String
  receipt_digest : String := ""
  deriving Repr, DecidableEq

def ControlReceiptFields.expected_digest (r : ControlReceiptFields) : String :=
  canonical_json_digest <| .dict <| JsonDict.of [
    ("correlation_id", .str r.correlation_id),
    ("control_kind", .str r.control_kind),
    ("goal_id", .opt_str r.goal_id),
    ("goal_revision", .opt_int r.goal_revision),
    ("accepted_state_revision", .int r.accepted_state_revision),
    ("payload_digest", .str r.payload_digest)]

def ControlReceiptFields.post_init (r : ControlReceiptFields) : Py Unit := do
  Py.refuse_value (r.correlation_id = "" ∨ r.control_kind = "" ∨ r.payload_digest = "")
    "control receipt identity and payload must not be empty"
  Py.refuse_value (r.accepted_state_revision < 0)
    "control receipt state revision must be non-negative"
  Py.refuse_value (r.goal_id.isNone ≠ r.goal_revision.isNone)
    "control receipt goal identity and revision must be paired"
  Py.refuse_value (r.goal_revision.any fun v => v < 1)
    "control receipt goal revision must be positive"
  Py.refuse_value (r.receipt_digest ≠ r.expected_digest) "control receipt digest mismatch"

abbrev ControlReceipt : Type := Checked ControlReceiptFields.post_init

def ControlReceipt.create (r : ControlReceiptFields) : Py ControlReceipt :=
  Checked.make { r with receipt_digest := r.expected_digest }
