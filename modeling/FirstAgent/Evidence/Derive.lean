import FirstAgent.Evidence.Oracles

/-! # Deriving Evidence

    `ClosedEvidenceRegistry.derive`: the records that prove every mandatory
    criterion of the Goal, computed from the durable facts.  A stored record is
    refreshed when its source facts changed; when they did not, it has to be
    the record that is derived.  `EvidenceVerificationError` is a `ValueError`. -/

open Fallible

/-- `closed_evidence_id`. -/
def closed_evidence_id (goal_id : String) (goal_revision : Int) (criterion_id : String) : String :=
  "evidence:" ++ goal_id ++ ":" ++ toString goal_revision ++ ":" ++ criterion_id

/-- The evidence id of a criterion of the Goal. -/
def GoalFrame.evidence_id (goal : GoalFrame) (c : AdmittedCriterion) : String :=
  closed_evidence_id goal.val.goal_id goal.val.revision c.val.criterion_id

/-- The criteria completion has to prove. -/
def GoalFrame.mandatory (goal : GoalFrame) : List AdmittedCriterion :=
  goal.val.admitted_criteria.filter fun c => c.val.mandatory

/-! ### One record -/

/-- The oracle of a criterion. -/
def prove_criterion (s : ConversationState) (goal : GoalFrame) (c : AdmittedCriterion)
    (observed_at : String) : Py OracleProof :=
  match c.val.oracle_kind with
  | .filesystem_digest   => filesystem_digest s.val.facts goal c.val.predicate
  | .tool_receipt        => tool_receipt s.val.facts goal c.val.predicate
  | .user_confirmation   => user_confirmation s.val.facts c.val.criterion_id
  | .research_provenance => research_provenance s goal c.val.predicate observed_at
  | .web_source_receipt  => web_source_receipt s.val.facts goal c.val.predicate
  | .browser_readback    => browser_readback s.val.facts goal c.val.predicate

/-- The digest of the source facts. -/
def source_digest (source : List ConversationFact) : String :=
  canonical_json_digest (.arr (source.map ConversationFact.asdict))

/-- The fields `_record` fills in. -/
def record_fields (goal : GoalFrame) (c : AdmittedCriterion) (observed_at : String)
    (p : OracleProof) : EvidenceRecordFields where
  evidence_id := goal.evidence_id c
  goal_id := goal.val.goal_id
  goal_revision := goal.val.revision
  criterion_id := c.val.criterion_id
  oracle_kind := c.val.oracle_kind
  predicate_digest := canonical_json_digest (.dict c.val.predicate)
  source_fact_ids := p.source.map fun f => f.val.fact_id
  source_digest := source_digest p.source
  oracle_identity := p.oracle_identity
  passed := true
  observed_at := observed_at

/-- `existing.get(evidence_id)`. -/
def stored_record (s : ConversationState) (evidence_id : String) : Option EvidenceRecord :=
  s.val.evidence_records.find? fun r => r.val.evidence_id = evidence_id

/-- What is returned for a criterion with a stored record. -/
def refresh_record (existing derived : EvidenceRecord) (observed_at : String) :
    Py EvidenceRecord :=
  if existing = derived then pure derived
  else do
    Py.refuse_value (existing.val.source_fact_ids = derived.val.source_fact_ids)
      "stored evidence does not match raw durable facts"
    Checked.make { derived.val with observed_at := observed_at }

/-- The record of one criterion. -/
def derive_record (s : ConversationState) (goal : GoalFrame) (observed_at : String)
    (c : AdmittedCriterion) : Py EvidenceRecord :=
  match stored_record s (goal.evidence_id c) with
  | none          => do
    let proof ← prove_criterion s goal c observed_at
    Checked.make (record_fields goal c observed_at proof)
  | some existing => do
    let proof ← prove_criterion s goal c existing.val.observed_at
    let derived ← Checked.make (record_fields goal c existing.val.observed_at proof)
    refresh_record existing derived observed_at

/-! ### The records of a claim -/

/-- The ids of the proposed criteria that ask for a Web source. -/
def web_requirement_ids (goal : GoalFrame) : List String :=
  (goal.val.proposed_criteria.filter fun c => c.val.oracle_kind = some .web_source_receipt).map
    fun c => c.val.criterion_id

/-- The ids of the mandatory criteria with one oracle. -/
def mandatory_ids (goal : GoalFrame) (oracle_kind : EvidenceOracleKind) : List String :=
  (goal.mandatory.filter fun c => c.val.oracle_kind = oracle_kind).map
    fun c => c.val.criterion_id

/-- The checks before any oracle is asked. -/
def check_claim (s : ConversationState) (goal : GoalFrame) (claim : CompletionClaim) :
    Py Unit := do
  Py.refuse_value
    (claim.val.goal_id ≠ goal.val.goal_id ∨ claim.val.goal_revision ≠ goal.val.revision)
    "completion claim is stale"
  Py.refuse_value
    ((goal.val.targets.any fun t => PyText.endswith t ".citations.json")
      ∧ mandatory_ids goal .research_provenance = [])
    "citation sidecar target requires admitted research provenance"
  Py.refuse_value (¬ web_requirement_ids goal ⊆ mandatory_ids goal .web_source_receipt)
    "public Web requirement has no admitted source receipt"
  Py.refuse_value (goal.mandatory = []) "goal has no mandatory criterion"
  Py.refuse_value (s.val.active_run.any fun r => r.val.phase = .executing)
    "unknown effect blocks completion evidence"
  Py.refuse_value (claim.val.criterion_evidence_refs ≠ goal.mandatory.map goal.evidence_id)
    "completion claim evidence refs are not exact"

/-- `ClosedEvidenceRegistry.derive`. -/
def derive_evidence (s : ConversationState) (claim : CompletionClaim) (observed_at : String) :
    Py (List EvidenceRecord) := do
  let goal ← Py.expect_value s.val.goal "completion claim is stale"
  check_claim s goal claim
  goal.mandatory.mapM (derive_record s goal observed_at)
