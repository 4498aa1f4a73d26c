import FirstAgent.Automation.Records
import FirstAgent.Framework.KeyedStore
import FirstAgent.Framework.TransitionSystem

/-! # The Automation Controller

    The one owner of automation mutations: each mutation names the snapshot it
    expects and the token of the next one, and is reduced to the next snapshot
    or refused.  The controller reads no clock and draws no random number.
    Limits a repository adapter adds of its own (the bytes of a snapshot) are
    not part of it. -/

open Fallible

/-! ### What the controller raises -/

/-- The exceptions of the controller. -/
inductive AutomationError where
  /-- `AutomationTransitionError` -/
  | transition (message : String)
  /-- `AutomationRepositoryConflictError` -/
  | repository_conflict (message : String)
  | assertion
  /-- raised by the constructor of a record -/
  | raised (error : PyError)
  deriving Repr, DecidableEq

/-- A computation of the controller. -/
abbrev Controlled (α : Type) : Type := Except AutomationError α

namespace Controlled

def refuse_transition (bad : Prop) [Decidable bad] (message : String) : Controlled Unit :=
  Fallible.refuse bad (.transition message)

def expect_transition {α : Type} (o : Option α) (message : String) : Controlled α :=
  Fallible.expect o (.transition message)

/-- `assert o is not None`. -/
def asserted {α : Type} (o : Option α) : Controlled α := Fallible.expect o .assertion

/-- Run a constructor. -/
def construct {α : Type} (x : Py α) : Controlled α := x.mapError .raised

theorem refuse_transition_eq_ok {bad : Prop} [Decidable bad] {m : String} {u : Unit} :
    refuse_transition bad m = .ok u ↔ ¬ bad :=
  Fallible.refuse_eq_ok

theorem expect_transition_eq_ok {α : Type} {o : Option α} {m : String} {a : α} :
    expect_transition o m = .ok a ↔ o = some a :=
  Fallible.expect_eq_ok

theorem asserted_eq_ok {α : Type} {o : Option α} {a : α} : asserted o = .ok a ↔ o = some a :=
  Fallible.expect_eq_ok

theorem construct_eq_ok {α : Type} {x : Py α} {a : α} : construct x = .ok a ↔ x = .ok a := by
  cases x <;> simp [construct, Except.mapError]

end Controlled

open Controlled

/-! ### Mutations -/

/-- What a mutation asks for. -/
inductive AutomationMutation where
  | create_proposal (body : AutomationDefinitionBodyV1)
  | approve_revision (automation_id : String) (definition : AutomationDefinitionV1)
      (activation_preview_digest : String)
  | stage_revision (automation_id : String) (body : AutomationDefinitionBodyV1)
  | pause_automation (automation_id : String)
  | resume_automation (automation_id : String)
  | cancel_automation (automation_id : String)
  | begin_purge (automation_id : String) (manifest : PurgeOwnershipManifestV1)
      (preview_digest : String)
  | start_purge_object (automation_id object_id : String)
  | record_purge_progress (automation_id object_id : String) (outcome : PurgeCleanupOutcome)
  | finish_purge (automation_id purged_at_utc : String)
  | claim_occurrence (authority : BackgroundOccurrenceAuthorityV1)
  | mark_dispatched (automation_id authority_digest process_identity_digest : String)
  | mark_running (automation_id authority_digest process_identity_digest : String)
  | record_occurrence_outcome (automation_id authority_digest : String)
      (summary : OccurrenceSummaryV1)
  deriving DecidableEq

/-- A mutation with the snapshot it expects and the token of the next one. -/
structure AutomationMutationFields where
  expected_snapshot_token : String
  next_snapshot_token : String
  mutation : AutomationMutation
  deriving DecidableEq

namespace AutomationMutationFields

def require_mutation_tokens (a : AutomationMutationFields) : Py Unit := do
  Py.refuse_value (a.expected_snapshot_token.toList.length < 16)
    "expected_snapshot_token must be opaque"
  Py.refuse_value (a.next_snapshot_token.toList.length < 16) "next_snapshot_token must be opaque"
  Py.refuse_value (a.expected_snapshot_token = a.next_snapshot_token)
    "next_snapshot_token must change"

/-- The checks of the mutation's own fields. -/
def check_mutation : AutomationMutation → Py Unit
  | .create_proposal _ => .ok ()
  | .approve_revision id _ preview => do
    Py.require_opaque_id id "automation_id"
    Py.require_hex64 preview "activation_preview_digest"
  | .stage_revision id _ => Py.require_opaque_id id "automation_id"
  | .pause_automation id => Py.require_opaque_id id "automation_id"
  | .resume_automation id => Py.require_opaque_id id "automation_id"
  | .cancel_automation id => Py.require_opaque_id id "automation_id"
  | .begin_purge id manifest preview => do
    Py.require_opaque_id id "automation_id"
    Py.refuse_value (manifest.val.automation_id ≠ id) "purge manifest automation mismatch"
    Py.require_hex64 preview "preview_digest"
    Py.refuse_value (preview ≠ manifest.val.manifest_digest)
      "purge approval must bind the exact manifest"
  | .start_purge_object id object_id => do
    Py.require_opaque_id id "automation_id"
    Py.require_opaque_id object_id "object_id"
  | .record_purge_progress id object_id _ => do
    Py.require_opaque_id id "automation_id"
    Py.require_opaque_id object_id "object_id"
  | .finish_purge id purged_at => do
    Py.require_opaque_id id "automation_id"
    let _ ← parse_canonical_utc purged_at "purged_at_utc"
    pure ()
  | .claim_occurrence _ => .ok ()
  | .mark_dispatched id authority process => do
    Py.require_opaque_id id "automation_id"
    Py.require_hex64 authority "authority_digest"
    Py.require_hex64 process "process_identity_digest"
  | .mark_running id authority process => do
    Py.require_opaque_id id "automation_id"
    Py.require_hex64 authority "authority_digest"
    Py.require_hex64 process "process_identity_digest"
  | .record_occurrence_outcome id authority _ => do
    Py.require_opaque_id id "automation_id"
    Py.require_hex64 authority "authority_digest"

def post_init (a : AutomationMutationFields) : Py Unit := do
  a.require_mutation_tokens
  check_mutation a.mutation

end AutomationMutationFields

abbrev AutomationMutationV1 : Type := Checked AutomationMutationFields.post_init

/-! ### Snapshots and their records -/

def find_record (s : AutomationSnapshotV1) (automation_id : String) : Option AutomationRecordV1 :=
  KeyedStore.find AutomationRecordV1.automation_id automation_id s.val.records

def require_record (s : AutomationSnapshotV1) (automation_id : String) :
    Controlled AutomationRecordV1 :=
  expect_transition (find_record s automation_id) "automation not found"

def next_snapshot (s : AutomationSnapshotV1) (next_token : String)
    (records : List AutomationRecordV1) : Controlled AutomationSnapshotV1 :=
  construct <| Checked.make {
    revision := s.val.revision + 1
    snapshot_token := next_token
    records := KeyedStore.sort AutomationRecordV1.automation_id records
    tombstones := s.val.tombstones }

def replace_record (s : AutomationSnapshotV1) (replacement : AutomationRecordV1)
    (next_token : String) : Controlled AutomationSnapshotV1 :=
  next_snapshot s next_token
    (KeyedStore.replace AutomationRecordV1.automation_id replacement s.val.records)

/-! ### Proposals and revisions -/

def create_proposal (s : AutomationSnapshotV1) (next_token : String)
    (body : AutomationDefinitionBodyV1) : Controlled AutomationSnapshotV1 := do
  refuse_transition
    ((find_record s body.val.automation_id).isSome
      ∨ s.val.tombstones.any fun t => t.val.automation_id = body.val.automation_id)
    "automation id already exists"
  refuse_transition (128 ≤ s.val.records.length) "automation record capacity reached"
  let record ← construct <| Checked.make {
    definition := none
    status := .proposal
    next_occurrence_index := 0
    terminal_occurrence_count := 0
    needs_human_reason := .null
    active_claim := none
    terminal_history := []
    draft_body := some body }
  next_snapshot s next_token (s.val.records ++ [record])

/-- The status an approval leaves. -/
def approved_status : AutomationStatus → AutomationStatus
  | .paused         => .paused
  | .cancel_pending => .cancel_pending
  | _               => .active

def approve_revision (s : AutomationSnapshotV1) (next_token automation_id : String)
    (definition : AutomationDefinitionV1) (activation_preview_digest : String) :
    Controlled AutomationSnapshotV1 := do
  let record ← require_record s automation_id
  let draft ← expect_transition record.val.draft_body "automation has no draft definition body"
  refuse_transition
    (draft.val.definition_body_digest ≠ definition.val.body.val.definition_body_digest)
    "approval does not match draft definition body"
  refuse_transition (definition.val.body.val.automation_id ≠ automation_id)
    "approval automation id mismatch"
  refuse_transition
    (definition.val.grant.val.activation_preview_digest ≠ activation_preview_digest)
    "approval does not match activation preview"
  refuse_transition
    (record.val.definition.any fun d =>
      definition.val.body.val.revision ≤ d.val.body.val.revision)
    "approved revision must advance"
  let replacement ← construct <| Checked.make { record.val with
    definition := some definition
    draft_body := none
    status := approved_status record.val.status
    next_occurrence_index := 0
    terminal_occurrence_count := 0 }
  replace_record s replacement next_token

/-- The newest revision of a record. -/
def newest_revision (definition : AutomationDefinitionV1)
    (draft : Option AutomationDefinitionBodyV1) : Int :=
  max definition.val.body.val.revision (draft.elim 0 fun b => b.val.revision)

def stage_revision (s : AutomationSnapshotV1) (next_token automation_id : String)
    (body : AutomationDefinitionBodyV1) : Controlled AutomationSnapshotV1 := do
  let record ← require_record s automation_id
  let definition ← expect_transition record.val.definition
    "proposal must be approved before update"
  refuse_transition
    (record.val.status = .canceled ∨ record.val.status = .purge_pending
      ∨ record.val.status = .purged)
    "terminal automation cannot be updated"
  refuse_transition (body.val.automation_id ≠ automation_id) "draft automation id mismatch"
  refuse_transition (body.val.revision ≤ newest_revision definition record.val.draft_body)
    "draft revision must advance"
  let replacement ← construct <| Checked.make { record.val with draft_body := some body }
  replace_record s replacement next_token

/-! ### Pausing, resuming and cancelling -/

def pause_automation (s : AutomationSnapshotV1) (next_token automation_id : String) :
    Controlled AutomationSnapshotV1 := do
  let record ← require_record s automation_id
  refuse_transition (record.val.status ≠ .active ∧ record.val.status ≠ .paused)
    "only active automation can be paused"
  let replacement ← construct <| Checked.make { record.val with status := .paused }
  replace_record s replacement next_token

def resume_automation (s : AutomationSnapshotV1) (next_token automation_id : String) :
    Controlled AutomationSnapshotV1 := do
  let record ← require_record s automation_id
  refuse_transition (record.val.status ≠ .paused) "only paused automation can be resumed"
  refuse_transition (record.val.active_claim.isSome ∨ record.val.needs_human_reason ≠ .null)
    "paused automation still has unresolved occurrence"
  let replacement ← construct <| Checked.make { record.val with status := .active }
  replace_record s replacement next_token

/-- The status a cancellation leaves. -/
def canceled_status (claim : Option BackgroundOccurrenceAuthorityV1) : AutomationStatus :=
  if claim.isSome then .cancel_pending else .canceled

def cancel_automation (s : AutomationSnapshotV1) (next_token automation_id : String) :
    Controlled AutomationSnapshotV1 := do
  let record ← require_record s automation_id
  refuse_transition (record.val.status = .canceled ∨ record.val.status = .purge_pending)
    "automation is already terminal or purging"
  let replacement ← construct <| Checked.make { record.val with
    status := canceled_status record.val.active_claim }
  replace_record s replacement next_token

/-! ### Purging -/

def begin_purge (s : AutomationSnapshotV1) (next_token automation_id : String)
    (manifest : PurgeOwnershipManifestV1) : Controlled AutomationSnapshotV1 := do
  let record ← require_record s automation_id
  refuse_transition (record.val.status ≠ .canceled ∨ record.val.active_claim.isSome)
    "only fully terminal automation can begin purge"
  let definition ← asserted record.val.definition
  refuse_transition
    (manifest.val.automation_revision ≠ definition.val.body.val.revision
      ∨ manifest.val.occurrence_count ≠ record.val.terminal_occurrence_count)
    "purge manifest does not match terminal record"
  let replacement ← construct <| Checked.make {
    definition := none
    draft_body := none
    status := .purge_pending
    next_occurrence_index := record.val.next_occurrence_index
    terminal_occurrence_count := record.val.terminal_occurrence_count
    needs_human_reason := .null
    active_claim := none
    terminal_history := []
    purge_manifest := some manifest }
  replace_record s replacement next_token

def start_purge_object (s : AutomationSnapshotV1) (next_token automation_id object_id : String) :
    Controlled AutomationSnapshotV1 := do
  let record ← require_record s automation_id
  refuse_transition (record.val.status ≠ .purge_pending) "automation is not purge pending"
  let manifest ← asserted record.val.purge_manifest
  refuse_transition record.val.purge_cleanup_unknown_object_id.isSome
    "purge cleanup outcome is unknown"
  match record.val.purge_active_object_id with
  | some active => do
    refuse_transition (active ≠ object_id) "another purge object is active"
    replace_record s record next_token
  | none => do
    refuse_transition
      (object_id ∉ manifest.val.object_ids ∨ object_id ∈ record.val.purge_confirmed_object_ids)
      "purge object is not pending"
    let replacement ← construct <| Checked.make { record.val with
      purge_active_object_id := some object_id }
    replace_record s replacement next_token

def record_purge_progress (s : AutomationSnapshotV1)
    (next_token automation_id object_id : String) (outcome : PurgeCleanupOutcome) :
    Controlled AutomationSnapshotV1 := do
  let record ← require_record s automation_id
  refuse_transition
    (record.val.status ≠ .purge_pending ∨ record.val.purge_active_object_id ≠ some object_id)
    "purge progress does not match active object"
  if outcome = .cleanup_unknown then do
    let replacement ← construct <| Checked.make { record.val with
      purge_cleanup_unknown_object_id := some object_id }
    replace_record s replacement next_token
  else do
    let manifest ← asserted record.val.purge_manifest
    let expected ← asserted (manifest.val.objects.find? fun o => o.val.object_id = object_id)
    refuse_transition (outcome ≠ expected.val.kind.confirming)
      "purge cleanup outcome does not match object kind"
    let replacement ← construct <| Checked.make { record.val with
      purge_confirmed_object_ids :=
        (record.val.purge_confirmed_object_ids ++ [object_id]).insertionSort (· ≤ ·)
      purge_active_object_id := none
      purge_cleanup_unknown_object_id := none }
    replace_record s replacement next_token

/-- The oldest tombstone: `min` by time and id; the first of equals. -/
def oldest_tombstone : List AutomationTombstoneV1 → Option AutomationTombstoneV1
  | []      => none
  | t :: ts =>
    match oldest_tombstone ts with
    | none   => some t
    | some u =>
      if u.val.purged_at_utc < t.val.purged_at_utc
          ∨ u.val.purged_at_utc = t.val.purged_at_utc ∧ u.val.automation_id < t.val.automation_id
      then some u else some t

/-- More than 128 tombstones lose the oldest one; a tombstone is named by its
    automation. -/
def keep_tombstones (ts : List AutomationTombstoneV1) : List AutomationTombstoneV1 :=
  if 128 < ts.length then
    match oldest_tombstone ts with
    | some oldest => ts.filter fun t => t.val.automation_id ≠ oldest.val.automation_id
    | none        => ts
  else ts

def finish_purge (s : AutomationSnapshotV1) (next_token automation_id purged_at_utc : String) :
    Controlled AutomationSnapshotV1 := do
  let record ← require_record s automation_id
  refuse_transition (record.val.status ≠ .purge_pending) "automation is not purge pending"
  let manifest ← asserted record.val.purge_manifest
  refuse_transition
    (record.val.purge_active_object_id.isSome
      ∨ record.val.purge_cleanup_unknown_object_id.isSome
      ∨ record.val.purge_confirmed_object_ids ≠ manifest.val.object_ids)
    "purge cleanup is incomplete"
  let tombstone ← construct <| AutomationTombstoneV1.create {
    automation_id := automation_id
    purged_revision := manifest.val.automation_revision
    purged_at_utc := purged_at_utc }
  construct <| Checked.make {
    revision := s.val.revision + 1
    snapshot_token := next_token
    records := KeyedStore.sort AutomationRecordV1.automation_id
      (KeyedStore.remove AutomationRecordV1.automation_id automation_id s.val.records)
    tombstones := KeyedStore.sort AutomationTombstoneV1.automation_id
      (keep_tombstones (s.val.tombstones ++ [tombstone])) }

/-! ### Claims and outcomes -/

def occurrence_identity (d : AutomationDefinitionV1) (occurrence_index : Int)
    (scheduled_for_utc : String) : Py String := do
  Py.refuse_value (occurrence_index < 0 ∨ d.val.body.val.max_occurrences ≤ occurrence_index)
    "occurrence_index is outside the definition bound"
  let _ ← parse_canonical_utc scheduled_for_utc "scheduled_for_utc"
  pure <| canonical_json_digest <| .dict <| JsonDict.of [
    ("automation_id", .str d.val.body.val.automation_id),
    ("revision", .int d.val.body.val.revision),
    ("occurrence_index", .int occurrence_index),
    ("scheduled_for_utc", .str scheduled_for_utc),
    ("definition_digest", .str d.val.definition_digest)]

/-- The deadline of an occurrence scheduled at this time. -/
def occurrence_deadline (d : AutomationDefinitionV1) (scheduled : UtcTime) : Py String := do
  let deadline ← scheduled.add d.val.body.val.budgets.val.occurrence_deadline_seconds.toNat
  pure (format_canonical_utc deadline)

def claim_occurrence (s : AutomationSnapshotV1) (next_token : String)
    (authority : BackgroundOccurrenceAuthorityV1) : Controlled AutomationSnapshotV1 := do
  let record ← require_record s authority.val.automation_id
  refuse_transition (record.val.status ≠ .active) ("automation is " ++ record.val.status.value)
  refuse_transition
    (record.val.active_claim.isSome ∨ s.val.records.any fun r => r.val.active_claim.isSome)
    "global occurrence concurrency is FORBID"
  let definition ← asserted record.val.definition
  refuse_transition
    (authority.val.automation_revision ≠ definition.val.body.val.revision
      ∨ authority.val.definition_digest ≠ definition.val.definition_digest
      ∨ authority.val.grant_digest ≠ definition.val.grant.val.grant_digest)
    "occurrence authority does not match active definition"
  refuse_transition (authority.val.occurrence_index ≠ record.val.next_occurrence_index)
    "occurrence index does not match schedule cursor"
  let expected_id ← construct <| occurrence_identity definition authority.val.occurrence_index
    authority.val.scheduled_for_utc
  refuse_transition (authority.val.occurrence_id ≠ expected_id) "occurrence identity mismatch"
  let scheduled ← construct <|
    parse_canonical_utc authority.val.scheduled_for_utc "scheduled_for_utc"
  let expected_deadline ← construct <| occurrence_deadline definition scheduled
  refuse_transition (authority.val.deadline_utc ≠ expected_deadline)
    "occurrence deadline mismatch"
  let replacement ← construct <| Checked.make { record.val with
    active_claim := some authority
    active_claim_phase := some .claimed
    active_claim_definition := some definition
    active_process_identity_digest := .null }
  replace_record s replacement next_token

def require_exact_claim (s : AutomationSnapshotV1) (automation_id authority_digest : String) :
    Controlled (AutomationRecordV1 × BackgroundOccurrenceAuthorityV1) := do
  let record ← require_record s automation_id
  let claim ← expect_transition record.val.active_claim
    "automation has no active occurrence claim"
  refuse_transition (claim.val.authority_digest ≠ authority_digest)
    "occurrence authority digest mismatch"
  pure (record, claim)

def mark_dispatched (s : AutomationSnapshotV1)
    (next_token automation_id authority_digest process_identity_digest : String) :
    Controlled AutomationSnapshotV1 := do
  let (record, _) ← require_exact_claim s automation_id authority_digest
  refuse_transition (record.val.active_claim_phase ≠ some .claimed)
    "only claimed occurrence can be dispatched"
  let replacement ← construct <| Checked.make { record.val with
    active_claim_phase := some .dispatched
    active_process_identity_digest := .str process_identity_digest }
  replace_record s replacement next_token

def mark_running (s : AutomationSnapshotV1)
    (next_token automation_id authority_digest process_identity_digest : String) :
    Controlled AutomationSnapshotV1 := do
  let (record, _) ← require_exact_claim s automation_id authority_digest
  refuse_transition (record.val.active_claim_phase ≠ some .dispatched)
    "only dispatched occurrence can be running"
  refuse_transition (record.val.active_process_identity_digest ≠ .str process_identity_digest)
    "process identity digest mismatch"
  let replacement ← construct <| Checked.make { record.val with active_claim_phase := some .running }
  replace_record s replacement next_token

/-- `_SAFE_TERMINAL_OUTCOMES`. -/
def OccurrenceControlStatus.is_safe_terminal : OccurrenceControlStatus → Bool
  | .completed | .failed | .misfire_skipped | .superseded | .worker_deadline | .canceled => true
  | _ => false

/-- `_UNRESOLVED_OUTCOMES`. -/
def OccurrenceControlStatus.is_unresolved : OccurrenceControlStatus → Bool
  | .needs_human | .start_outcome_unknown | .model_outcome_unknown | .effect_outcome_unknown
  | .cleanup_unknown => true
  | _ => false

/-- `_TERMINAL_OUTCOMES_BY_CLAIM_PHASE`. -/
def closes_phase : OccurrenceControlStatus → OccurrenceControlStatus → Bool
  | .claimed, outcome => outcome = .misfire_skipped || outcome = .superseded || outcome = .canceled
  | .running, outcome => outcome = .completed || outcome = .failed ||
      outcome = .worker_deadline || outcome = .canceled
  | _, _ => false

/-- The summary is about the claimed occurrence. -/
def summary_matches (summary : OccurrenceSummaryV1) (claim : BackgroundOccurrenceAuthorityV1) :
    Bool :=
  summary.val.occurrence_id = claim.val.occurrence_id &&
    summary.val.scheduled_for_utc = claim.val.scheduled_for_utc &&
    summary.val.definition_digest = claim.val.definition_digest &&
    summary.val.checkpoint_identity_digest = claim.val.checkpoint_identity

/-- The status a closed claim leaves. -/
def closed_status : AutomationStatus → AutomationStatus
  | .cancel_pending => .canceled
  | .paused         => .paused
  | _               => .active

def record_occurrence_outcome (s : AutomationSnapshotV1)
    (next_token automation_id authority_digest : String) (summary : OccurrenceSummaryV1) :
    Controlled AutomationSnapshotV1 := do
  let (record, claim) ← require_exact_claim s automation_id authority_digest
  let phase ← asserted record.val.active_claim_phase
  refuse_transition (summary_matches summary claim = false)
    "occurrence summary does not match active claim"
  refuse_transition
    (summary.val.status.is_safe_terminal ∧ closes_phase phase summary.val.status = false)
    "outcome does not match claim phase"
  if summary.val.status.is_unresolved then do
    refuse_transition (summary.val.error_code.truthy = false)
      "unresolved outcome requires an error code"
    let replacement ← construct <| Checked.make { record.val with
      status := .paused
      needs_human_reason := summary.val.error_code
      active_claim_phase := some summary.val.status }
    replace_record s replacement next_token
  else do
    refuse_transition (summary.val.status.is_safe_terminal = false)
      "outcome is not terminal or needs-human"
    refuse_transition (128 ≤ record.val.terminal_history.length)
      "terminal history capacity reached"
    let replacement ← construct <| Checked.make { record.val with
      status := closed_status record.val.status
      next_occurrence_index := claim.val.occurrence_index + 1
      terminal_occurrence_count := record.val.terminal_occurrence_count + 1
      needs_human_reason := .null
      active_claim := none
      active_claim_phase := none
      active_claim_definition := none
      active_process_identity_digest := .null
      terminal_history := record.val.terminal_history ++ [summary] }
    replace_record s replacement next_token

/-! ### The controller -/

/-- `_reduce`. -/
def reduce (s : AutomationSnapshotV1) (next_token : String) :
    AutomationMutation → Controlled AutomationSnapshotV1
  | .create_proposal body => create_proposal s next_token body
  | .approve_revision id definition preview => approve_revision s next_token id definition preview
  | .stage_revision id body => stage_revision s next_token id body
  | .pause_automation id => pause_automation s next_token id
  | .resume_automation id => resume_automation s next_token id
  | .cancel_automation id => cancel_automation s next_token id
  | .begin_purge id manifest _ => begin_purge s next_token id manifest
  | .start_purge_object id object_id => start_purge_object s next_token id object_id
  | .record_purge_progress id object_id outcome =>
    record_purge_progress s next_token id object_id outcome
  | .finish_purge id purged_at => finish_purge s next_token id purged_at
  | .claim_occurrence authority => claim_occurrence s next_token authority
  | .mark_dispatched id authority process => mark_dispatched s next_token id authority process
  | .mark_running id authority process => mark_running s next_token id authority process
  | .record_occurrence_outcome id authority summary =>
    record_occurrence_outcome s next_token id authority summary

/-- `AutomationController.handle` on the snapshot its repository holds. -/
def handle (s : AutomationSnapshotV1) (action : AutomationMutationV1) :
    Controlled AutomationSnapshotV1 := do
  Fallible.refuse (action.val.expected_snapshot_token ≠ s.val.snapshot_token)
    (AutomationError.repository_conflict "automation snapshot token conflict")
  reduce s action.val.next_snapshot_token action.val.mutation

/-- The snapshots of a store under the mutations of its controller. -/
def automation_system : System AutomationError AutomationSnapshotV1 AutomationMutationV1 where
  step := handle

/-- A snapshot with nothing in it. -/
def AutomationSnapshotFields.is_empty (s : AutomationSnapshotFields) : Prop :=
  s.records = [] ∧ s.tombstones = []

theorem handle_eq_ok {s s' : AutomationSnapshotV1} {action : AutomationMutationV1} :
    handle s action = .ok s' ↔ action.val.expected_snapshot_token = s.val.snapshot_token ∧
      reduce s action.val.next_snapshot_token action.val.mutation = .ok s' := by
  simp only [handle, bind_eq_ok, refuse_eq_ok, not_not, exists_const]

/-- A store with nothing in it. -/
def empty_snapshot : AutomationSnapshotV1 :=
  ⟨{ revision := 0, snapshot_token := "snapshot-token-0", records := [], tombstones := [] },
    by decide +kernel⟩

/-- The tokens of a store that counts its snapshots. -/
def numbered_token (n : Nat) : String := "snapshot-token-" ++ toString n

/-- The mutation of the `n`-th snapshot of such a store. -/
def numbered (n : Nat) (m : AutomationMutation)
    (h : AutomationMutationFields.post_init ⟨numbered_token n, numbered_token (n + 1), m⟩ = .ok ()
      := by decide +kernel) : AutomationMutationV1 :=
  ⟨⟨numbered_token n, numbered_token (n + 1), m⟩, h⟩
