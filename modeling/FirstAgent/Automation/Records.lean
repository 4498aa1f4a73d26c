import FirstAgent.Automation.Contracts

/-! # Automation Records and Snapshots

    What the automation store holds: the summaries of finished occurrences,
    the ownership manifest of a purge, one record for each automation, one
    tombstone for each purged one, and the snapshot of all of them.

    Three values are kept as whatever the caller passed, because no
    constructor looks at their type: the error code of a summary, the reason
    of a record that needs a human (which is such an error code) and the
    process identity of an unresolved claim. -/

open Fallible

/-! ### Summaries and manifests -/

structure OccurrenceSummaryFields where
  occurrence_id : String
  status : OccurrenceControlStatus
  scheduled_for_utc : String
  definition_digest : String
  checkpoint_identity_digest : String
  result_digest : Option String
  replayed : Bool
  error_code : Json
  deriving DecidableEq

def OccurrenceSummaryFields.post_init (s : OccurrenceSummaryFields) : Py Unit := do
  Py.require_opaque_id s.occurrence_id "occurrence_id"
  let _ ← parse_canonical_utc s.scheduled_for_utc "scheduled_for_utc"
  Py.require_hex64 s.definition_digest "definition_digest"
  Py.require_hex64 s.checkpoint_identity_digest "checkpoint_identity_digest"
  Py.require_hex64_or_none s.result_digest "result_digest"

abbrev OccurrenceSummaryV1 : Type := Checked OccurrenceSummaryFields.post_init

structure PurgeOwnedObjectFields where
  object_id : String
  kind : PurgeObjectKind
  identity_digest : String
  deriving Repr, DecidableEq

def PurgeOwnedObjectFields.post_init (o : PurgeOwnedObjectFields) : Py Unit := do
  Py.require_opaque_id o.object_id "object_id"
  Py.require_hex64 o.identity_digest "identity_digest"

abbrev PurgeOwnedObjectV1 : Type := Checked PurgeOwnedObjectFields.post_init

def PurgeOwnedObjectV1.identity_values (o : PurgeOwnedObjectV1) : Json :=
  .dict <| JsonDict.of [
    ("object_id", .str o.val.object_id),
    ("kind", .str o.val.kind.value),
    ("identity_digest", .str o.val.identity_digest)]

/-- The outcome that confirms the removal of an object of this kind. -/
def PurgeObjectKind.confirming : PurgeObjectKind → PurgeCleanupOutcome
  | .governed_external_reference => .unlinked
  | _                            => .cleaned

structure PurgeOwnershipManifestFields where
  automation_id : String
  automation_revision : Int
  occurrence_count : Int
  checkpoint_count : Int
  objects : List PurgeOwnedObjectV1
  manifest_digest : String := ""
  deriving DecidableEq

namespace PurgeOwnershipManifestFields

def object_ids (m : PurgeOwnershipManifestFields) : List String :=
  m.objects.map fun o => o.val.object_id

def expected_digest (m : PurgeOwnershipManifestFields) : String :=
  canonical_json_digest <| .dict <| JsonDict.of [
    ("automation_id", .str m.automation_id),
    ("automation_revision", .int m.automation_revision),
    ("occurrence_count", .int m.occurrence_count),
    ("checkpoint_count", .int m.checkpoint_count),
    ("objects", .arr (m.objects.map PurgeOwnedObjectV1.identity_values))]

def post_init (m : PurgeOwnershipManifestFields) : Py Unit := do
  Py.require_opaque_id m.automation_id "automation_id"
  Py.require_positive_int m.automation_revision "automation_revision" (2 ^ 31 - 1)
  Py.require_nonnegative_int m.occurrence_count "occurrence_count" 128
  Py.require_nonnegative_int m.checkpoint_count "checkpoint_count" 128
  Py.refuse_value (PyText.sorted_unique m.object_ids = false)
    "purge objects must be sorted with unique ids"
  Py.refuse_value (m.manifest_digest ≠ m.expected_digest)
    "purge ownership manifest digest mismatch"

end PurgeOwnershipManifestFields

abbrev PurgeOwnershipManifestV1 : Type := Checked PurgeOwnershipManifestFields.post_init

def PurgeOwnershipManifestV1.create (m : PurgeOwnershipManifestFields) :
    Py PurgeOwnershipManifestV1 :=
  Checked.make { m with manifest_digest := digest_or m.manifest_digest m.expected_digest }

/-! ### Records -/

structure AutomationRecordFields where
  definition : Option AutomationDefinitionV1
  status : AutomationStatus
  next_occurrence_index : Int
  terminal_occurrence_count : Int
  needs_human_reason : Json
  active_claim : Option BackgroundOccurrenceAuthorityV1
  terminal_history : List OccurrenceSummaryV1
  draft_body : Option AutomationDefinitionBodyV1 := none
  active_claim_phase : Option OccurrenceControlStatus := none
  active_claim_definition : Option AutomationDefinitionV1 := none
  active_process_identity_digest : Json := .null
  purge_manifest : Option PurgeOwnershipManifestV1 := none
  purge_confirmed_object_ids : List String := []
  purge_active_object_id : Option String := none
  purge_cleanup_unknown_object_id : Option String := none
  deriving DecidableEq

/-- The phases of a claim that is not closed. -/
def OccurrenceControlStatus.is_live : OccurrenceControlStatus → Bool
  | .claimed | .dispatched | .running | .needs_human | .start_outcome_unknown
  | .model_outcome_unknown | .effect_outcome_unknown | .cleanup_unknown => true
  | _ => false

namespace AutomationRecordFields

def check_status (r : AutomationRecordFields) : Py Unit :=
  match r.status with
  | .proposal => Py.refuse_value (r.definition.isSome ∨ r.draft_body.isNone)
      "proposal requires only a draft definition body"
  | .purge_pending => Py.refuse_value
      (r.definition.isSome ∨ r.draft_body.isSome ∨ r.purge_manifest.isNone
        ∨ r.active_claim.isSome ∨ r.terminal_history ≠ [])
      "purge pending requires only a content-free manifest"
  | .purged => Py.refuse_value True "purged automation must be represented by a tombstone"
  | _ => Py.refuse_value r.definition.isNone "non-proposal record requires an approved definition"

/-- The field names one object of the manifest, or none. -/
def check_object (m : PurgeOwnershipManifestV1) (value : Option String) (field : String) :
    Py Unit :=
  Py.refuse_value
    (value.any fun v => !PyText.is_opaque_id v || !m.val.object_ids.contains v)
    (field ++ " must name a manifest object")

def check_progress (r : AutomationRecordFields) (m : PurgeOwnershipManifestV1) : Py Unit := do
  Py.refuse_value
    ((r.purge_confirmed_object_ids.any fun i => !PyText.is_opaque_id i)
      ∨ PyText.sorted_unique r.purge_confirmed_object_ids = false
      ∨ r.purge_confirmed_object_ids.any fun i => !m.val.object_ids.contains i)
    "purge progress must be sorted and manifest-bound"
  check_object m r.purge_active_object_id "purge_active_object_id"
  check_object m r.purge_cleanup_unknown_object_id "purge_cleanup_unknown_object_id"
  Py.refuse_value
    (r.purge_active_object_id.any fun i => r.purge_confirmed_object_ids.contains i)
    "confirmed purge object cannot remain active"
  Py.refuse_value
    (r.purge_cleanup_unknown_object_id.isSome
      ∧ r.purge_active_object_id ≠ r.purge_cleanup_unknown_object_id)
    "cleanup unknown must bind the active purge object"

def check_purge (r : AutomationRecordFields) : Py Unit := do
  Py.refuse_value
    (r.status ≠ .purge_pending
      ∧ (r.purge_manifest.isSome ∨ r.purge_confirmed_object_ids ≠ []
        ∨ r.purge_active_object_id.isSome ∨ r.purge_cleanup_unknown_object_id.isSome))
    "only purge pending records carry purge progress"
  r.purge_manifest.elim (.ok ()) r.check_progress

def check_draft (r : AutomationRecordFields) : Py Unit :=
  match r.definition, r.draft_body with
  | some d, some b => do
    Py.refuse_value (d.val.body.val.automation_id ≠ b.val.automation_id)
      "draft and approved definition ids must match"
    Py.refuse_value (b.val.revision ≤ d.val.body.val.revision)
      "draft revision must be newer than approved revision"
  | _, _ => .ok ()

/-- The claim was made under this definition. -/
def claim_matches (claim : BackgroundOccurrenceAuthorityV1) (d : AutomationDefinitionV1) : Bool :=
  claim.val.automation_id = d.val.body.val.automation_id &&
    claim.val.automation_revision = d.val.body.val.revision &&
    claim.val.definition_digest = d.val.definition_digest &&
    claim.val.grant_digest = d.val.grant.val.grant_digest

/-- `_require_hex64` of a value of any type. -/
def require_hex64_value (value : Json) (field : String) : Py Unit :=
  match value with
  | .str s => Py.require_hex64 s field
  | _      => Py.refuse_value True (field ++ " must be bare hex64")

def check_process (r : AutomationRecordFields) (phase : OccurrenceControlStatus) : Py Unit :=
  match phase with
  | .dispatched | .running => do
    Py.refuse_value (r.active_process_identity_digest = .null)
      "dispatched/running claim requires process identity"
    require_hex64_value r.active_process_identity_digest "active_process_identity_digest"
  | .claimed => Py.refuse_value (r.active_process_identity_digest ≠ .null)
      "claimed occurrence must not carry process identity"
  | _ => .ok ()

def check_claim (r : AutomationRecordFields) : Py Unit :=
  match r.active_claim with
  | none => Py.refuse_value
      (r.active_claim_phase.isSome ∨ r.active_claim_definition.isSome
        ∨ r.active_process_identity_digest ≠ .null)
      "inactive record carries active claim state"
  | some claim => do
    let phase ← Py.expect_value r.active_claim_phase "active claim requires a live claim phase"
    Py.refuse_value (phase.is_live = false) "active claim requires a live claim phase"
    let d ← Py.expect_value r.active_claim_definition
      "active claim requires its immutable definition"
    Py.refuse_value (claim_matches claim d = false)
      "active claim does not match its immutable definition"
    r.check_process phase

def post_init (r : AutomationRecordFields) : Py Unit := do
  Py.require_nonnegative_int r.next_occurrence_index "next_occurrence_index" 128
  Py.require_nonnegative_int r.terminal_occurrence_count "terminal_occurrence_count" 128
  Py.refuse_value (r.needs_human_reason ≠ .null ∧ r.needs_human_reason.truthy = false)
    "needs_human_reason must be non-empty or null"
  Py.refuse_value (r.needs_human_reason ≠ .null ∧ r.status ≠ .paused)
    "needs-human record must be paused"
  r.check_status
  r.check_purge
  r.check_draft
  r.check_claim
  Py.refuse_value (128 < r.terminal_history.length)
    "terminal_history must contain at most 128 summaries"

end AutomationRecordFields

abbrev AutomationRecordV1 : Type := Checked AutomationRecordFields.post_init

/-- The id a record stands under. -/
def AutomationRecordFields.automation_id (r : AutomationRecordFields) : String :=
  match r.definition, r.draft_body, r.purge_manifest with
  | some d, _, _       => d.val.body.val.automation_id
  | none, some b, _    => b.val.automation_id
  | none, none, some m => m.val.automation_id
  -- no record: each status has one of the three
  | none, none, none   => ""

def AutomationRecordV1.automation_id (r : AutomationRecordV1) : String := r.val.automation_id

/-! ### Tombstones and snapshots -/

structure AutomationTombstoneFields where
  automation_id : String
  purged_revision : Int
  purged_at_utc : String
  tombstone_digest : String := ""
  deriving Repr, DecidableEq

namespace AutomationTombstoneFields

def expected_digest (t : AutomationTombstoneFields) : String :=
  canonical_json_digest <| .dict <| JsonDict.of [
    ("automation_id", .str t.automation_id),
    ("purged_revision", .int t.purged_revision),
    ("purged_at_utc", .str t.purged_at_utc)]

def post_init (t : AutomationTombstoneFields) : Py Unit := do
  Py.require_opaque_id t.automation_id "automation_id"
  Py.require_positive_int t.purged_revision "purged_revision" (2 ^ 31 - 1)
  let _ ← parse_canonical_utc t.purged_at_utc "purged_at_utc"
  Py.refuse_value (t.tombstone_digest ≠ t.expected_digest) "tombstone digest mismatch"

end AutomationTombstoneFields

abbrev AutomationTombstoneV1 : Type := Checked AutomationTombstoneFields.post_init

def AutomationTombstoneV1.create (t : AutomationTombstoneFields) : Py AutomationTombstoneV1 :=
  Checked.make { t with tombstone_digest := digest_or t.tombstone_digest t.expected_digest }

def AutomationTombstoneV1.automation_id (t : AutomationTombstoneV1) : String := t.val.automation_id

structure AutomationSnapshotFields where
  revision : Int
  snapshot_token : String
  records : List AutomationRecordV1
  tombstones : List AutomationTombstoneV1
  deriving DecidableEq

/-- The statuses a snapshot bounds. -/
def AutomationStatus.is_nonterminal : AutomationStatus → Bool
  | .proposal | .active | .paused | .cancel_pending | .purge_pending => true
  | .canceled | .purged => false

namespace AutomationSnapshotFields

def record_ids (s : AutomationSnapshotFields) : List String :=
  s.records.map AutomationRecordV1.automation_id

def tombstone_ids (s : AutomationSnapshotFields) : List String :=
  s.tombstones.map AutomationTombstoneV1.automation_id

def nonterminal_count (s : AutomationSnapshotFields) : Nat :=
  s.records.countP fun r => r.val.status.is_nonterminal

def post_init (s : AutomationSnapshotFields) : Py Unit := do
  Py.require_nonnegative_int s.revision "revision" (2 ^ 63 - 1)
  Py.refuse_value (s.snapshot_token.toList.length < 16) "snapshot_token must be opaque"
  Py.refuse_value (128 < s.records.length) "records must be a bounded tuple"
  Py.refuse_value (128 < s.tombstones.length) "tombstones must be a bounded tuple"
  Py.refuse_value (PyText.sorted_unique s.record_ids = false)
    "records must be sorted with unique ids"
  Py.refuse_value (PyText.sorted_unique s.tombstone_ids = false)
    "tombstones must be sorted with unique ids"
  Py.refuse_value (s.record_ids.any fun i => s.tombstone_ids.contains i)
    "active and purged automation ids must not overlap"
  Py.refuse_value (32 < s.nonterminal_count)
    "snapshot supports at most 32 non-terminal automations"

end AutomationSnapshotFields

abbrev AutomationSnapshotV1 : Type := Checked AutomationSnapshotFields.post_init

/-! ### The purge of the hourly automation -/

/-- Its manifest: one workspace. -/
def hourly_manifest : PurgeOwnershipManifestV1 where
  val := {
    automation_id := "hourly"
    automation_revision := 1
    occurrence_count := 0
    checkpoint_count := 0
    objects := [⟨{
      object_id := "workspace-1"
      kind := .occurrence_workspace
      identity_digest := "59b774a5253e2bc8e357bdfc95e4f7a4b214734f6da65a9f53b40711a10ba16b" },
      by decide +kernel⟩]
    manifest_digest := "66302c7f323d1aaa22c4ed5bef4f8d05dba1841bde344cdb23ca79979bfeab33" }
  valid := by
    rw [PurgeOwnershipManifestFields.post_init, PurgeOwnershipManifestFields.expected_digest,
      canonical_json_digest_eq]
    decide +kernel
