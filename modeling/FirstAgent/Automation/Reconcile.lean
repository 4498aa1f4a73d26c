import FirstAgent.Automation.DueClaims

/-! # The Reconciler and Its Restarts

    A wake of the reconciler is a chain of controller mutations, with calls of
    the executor and callbacks of the supervisor between them.  The process may
    stop before and after each of them; the snapshot survives, and the next
    wake goes on from the phase of the claim it finds there.  Users change the
    snapshot at any time through the mutations the management commands send.

    The lists of claims, of occurrences marked running and of executed ones are
    ghosts: nothing reads them. -/

open Fallible Controlled

/-! ### What is due -/

/-- An occurrence some schedule decides for. -/
structure ScheduleCandidate where
  scheduled_for_utc : String
  automation_id : String
  record : AutomationRecordV1
  decision : ScheduleDecisionV1

def schedule_candidate (now : UtcTime) (record : AutomationRecordV1) :
    Controlled (Option ScheduleCandidate) :=
  match record.val.definition with
  | none => pure none
  | some definition => do
    let decision ← resolve_schedule definition record now
    if decision.val.kind.is_occurrence then
      let scheduled ← asserted decision.val.scheduled_for_utc
      pure (some ⟨scheduled, record.automation_id, record, decision⟩)
    else pure none

/-- `min` by slot and id; the first of equals. -/
def earliest_candidate : List ScheduleCandidate → Option ScheduleCandidate
  | []      => none
  | c :: cs =>
    match earliest_candidate cs with
    | none   => some c
    | some e =>
      if e.scheduled_for_utc < c.scheduled_for_utc
          ∨ e.scheduled_for_utc = c.scheduled_for_utc ∧ e.automation_id < c.automation_id
      then some e else some c

structure ExecutionAvailabilityV1 where
  provider_available : Bool := true
  supervisor_available : Bool := true
  sandbox_available : Bool := true
  browser_available : Bool := true
  deriving Repr, DecidableEq

/-- What the reconciler was built with. -/
structure ReconcilerHost where
  has_executor : Bool := true
  has_supervisor : Bool := true
  execution_availability : ExecutionAvailabilityV1 := {}
  deriving Repr, DecidableEq

/-- `_configuration_reason`. -/
def configuration_reason (host : ReconcilerHost) (record : AutomationRecordV1) :
    Controlled (Option String) :=
  let availability := host.execution_availability
  if host.has_executor = false ∨ availability.provider_available = false then
    pure (some "provider_unavailable")
  else if host.has_supervisor = false ∨ availability.supervisor_available = false then
    pure (some "supervisor_unavailable")
  else do
    let definition ← asserted (record.val.active_claim_definition.or record.val.definition)
    let budgets := definition.val.body.val.budgets.val
    pure <|
      if budgets.sandbox_commands ≠ 0 ∧ availability.sandbox_available = false then
        some "sandbox_unavailable"
      else if budgets.browser_actions ≠ 0 ∧ availability.browser_available = false then
        some "browser_unavailable"
      else none

/-! ### Results -/

/-- An execution result; its artifacts are left to the workspace repository. -/
structure OccurrenceExecutionResultFields where
  status : OccurrenceControlStatus
  checkpoint_identity_digest : String
  result_digest : Option String := none
  replayed : Bool := false
  error_code : Option String := none
  deriving Repr, DecidableEq

/-- `_RESULT_STATUSES`. -/
def OccurrenceControlStatus.is_result : OccurrenceControlStatus → Bool
  | .claimed | .dispatched | .running => false
  | _ => true

def OccurrenceExecutionResultFields.post_init (r : OccurrenceExecutionResultFields) : Py Unit := do
  Py.refuse_value (r.status.is_result = false) "status is not an executor outcome"
  Py.require_hex64 r.checkpoint_identity_digest "checkpoint_identity_digest"
  Py.require_hex64_or_none r.result_digest "result_digest"
  Py.refuse_value (r.status = .completed ∧ r.result_digest = none)
    "completed result requires result_digest"
  Py.refuse_value (r.status.is_unresolved ∧ (r.error_code = none ∨ r.error_code = some ""))
    "unresolved result requires error_code"
  Py.refuse_value (r.error_code.any fun code => !PyText.is_opaque_id code)
    "error_code must be an opaque id or null"

abbrev OccurrenceExecutionResultV1 : Type := Checked OccurrenceExecutionResultFields.post_init

/-- What the workspace repository answers after an occurrence: whether the
    workspace loads and is the prepared one, the digest of the captured diff,
    and whether the workspace is gone. -/
structure WorkspaceReport where
  loads : Bool
  same_identity : Bool
  diff_digest : Option String
  cleaned : Bool
  deriving Repr, DecidableEq

/-- `_capture_and_cleanup`. -/
def capture_and_cleanup (result : OccurrenceExecutionResultV1) (report : WorkspaceReport) :
    Py OccurrenceExecutionResultV1 :=
  let unknown (error_code : String) : Py OccurrenceExecutionResultV1 := Checked.make {
    status := .cleanup_unknown
    checkpoint_identity_digest := result.val.checkpoint_identity_digest
    replayed := result.val.replayed
    error_code := some error_code }
  match report.diff_digest with
  | none      => unknown "terminal_capture_unknown"
  | some diff =>
    if report.cleaned then
      Checked.make { result.val with
        result_digest := some <| canonical_json_digest <| .dict <| JsonDict.of [
          ("runtime_result_digest", result.val.result_digest.elim .null .str),
          ("diff_digest", .str diff)] }
    else unknown "workspace_cleanup_unknown"

/-- `_SAFE_TERMINAL` of the reconciler. -/
def OccurrenceControlStatus.is_captured : OccurrenceControlStatus → Bool
  | .completed | .failed | .worker_deadline | .canceled => true
  | _ => false

/-- A safe terminal result is captured, any other stays. -/
def captured_result (result : OccurrenceExecutionResultV1) (report : WorkspaceReport) :
    Py OccurrenceExecutionResultV1 :=
  if result.val.status.is_captured then capture_and_cleanup result report else pure result

/-- `_unknown_result`. -/
def unknown_result (authority : BackgroundOccurrenceAuthorityV1) (status : OccurrenceControlStatus)
    (error_code : String) : Py OccurrenceExecutionResultV1 :=
  Checked.make {
    status := status
    checkpoint_identity_digest := authority.val.checkpoint_identity
    error_code := some error_code }

/-- The result of an occurrence that was late. -/
def misfire_result (authority : BackgroundOccurrenceAuthorityV1) : Py OccurrenceExecutionResultV1 :=
  unknown_result authority .misfire_skipped "misfire_skipped"

/-- The summary `_record` makes of a result. -/
def result_summary (authority : BackgroundOccurrenceAuthorityV1)
    (result : OccurrenceExecutionResultV1) : Py OccurrenceSummaryV1 :=
  Checked.make {
    occurrence_id := authority.val.occurrence_id
    status := result.val.status
    scheduled_for_utc := authority.val.scheduled_for_utc
    definition_digest := authority.val.definition_digest
    checkpoint_identity_digest := result.val.checkpoint_identity_digest
    result_digest := result.val.result_digest
    replayed := result.val.replayed
    error_code := result.val.error_code.elim .null .str }

/-- `_record`. -/
def record_result (s : AutomationSnapshotV1) (next_token : String)
    (authority : BackgroundOccurrenceAuthorityV1) (result : Py OccurrenceExecutionResultV1) :
    Controlled AutomationSnapshotV1 := do
  let result ← construct result
  let summary ← construct (result_summary authority result)
  send s next_token (.record_occurrence_outcome authority.val.automation_id
    authority.val.authority_digest summary)

/-! ### Where a wake stands -/

/-- Why a claim that is found is not started. -/
inductive Recovery where
  | canceled | start_unknown | interrupted
  deriving Repr, DecidableEq

/-- The result recorded for such a claim; `recovered` is what the executor
    recovers. -/
def recovery_result (authority : BackgroundOccurrenceAuthorityV1) (report : WorkspaceReport)
    (recovered : Option OccurrenceExecutionResultV1) : Recovery → Py OccurrenceExecutionResultV1
  | .canceled => do
    let canceled ← unknown_result authority .canceled "canceled_before_start"
    if report.loads then capture_and_cleanup canceled report else pure canceled
  | .start_unknown => unknown_result authority .start_outcome_unknown "start_outcome_unknown"
  | .interrupted =>
    match recovered with
    | none => unknown_result authority .effect_outcome_unknown "effect_outcome_unknown"
    | some result =>
      if report.loads = false then
        unknown_result authority .cleanup_unknown "workspace_recovery_unknown"
      else if report.same_identity = false then
        unknown_result authority .cleanup_unknown "workspace_identity_drift"
      else captured_result result report

/-- What the reconciler does next. -/
inductive ReconcilePoint where
  | asleep
  | claiming (authority : BackgroundOccurrenceAuthorityV1) (kind : ScheduleDecisionKind)
  | skipping (authority : BackgroundOccurrenceAuthorityV1)
  | preparing (authority : BackgroundOccurrenceAuthorityV1)
  | supervising (authority : BackgroundOccurrenceAuthorityV1)
  | dispatched (authority : BackgroundOccurrenceAuthorityV1) (permit : String)
  | started (authority : BackgroundOccurrenceAuthorityV1)
  | executed (authority : BackgroundOccurrenceAuthorityV1)
  | recovering (authority : BackgroundOccurrenceAuthorityV1) (recovery : Recovery)
  | purging (record : AutomationRecordV1) (now : UtcTime)
  deriving DecidableEq

/-- `_reconcile_active`, up to its first call. -/
def reconcile_active (host : ReconcilerHost) (record : AutomationRecordV1) :
    Controlled ReconcilePoint := do
  let authority ← asserted record.val.active_claim
  let phase ← asserted record.val.active_claim_phase
  if record.val.status = .cancel_pending ∧ phase = .claimed then
    pure (.recovering authority .canceled)
  else
    match phase with
    | .dispatched => pure (.recovering authority .start_unknown)
    | .running => do
      let unavailable ← configuration_reason host record
      pure (if unavailable.isSome then .asleep else .recovering authority .interrupted)
    | .claimed => do
      let unavailable ← configuration_reason host record
      pure (if unavailable.isSome then .asleep else .preparing authority)
    -- a human, or nobody, decides about the other phases
    | _ => pure .asleep

/-- `AutomationReconciler.reconcile`, up to its first call or mutation. -/
def reconcile (host : ReconcilerHost) (tokens : ClaimTokens) (now : UtcTime)
    (s : AutomationSnapshotV1) : Controlled ReconcilePoint :=
  match s.val.records.find? fun r => r.val.active_claim.isSome with
  | some record => reconcile_active host record
  | none =>
    match s.val.records.find? fun r => r.val.status = .purge_pending with
    | some record => pure (.purging record now)
    | none => do
      let candidates ← s.val.records.mapM (schedule_candidate now)
      match earliest_candidate candidates.reduceOption with
      | none => pure .asleep
      | some candidate => do
        let unavailable ← configuration_reason host candidate.record
        if unavailable.isSome then pure .asleep
        else
          let kind := candidate.decision.val.kind
          let occurrence_index ← asserted candidate.decision.val.occurrence_index
          let scheduled_for_utc ← asserted candidate.decision.val.scheduled_for_utc
          let authority ← reconcile_authority tokens candidate.record occurrence_index
            scheduled_for_utc (kind = .due)
          pure (.claiming authority kind)

/-! ### The steps of a wake -/

/-- A claim, and the decision it was made from. -/
structure OccurrenceClaim where
  authority : BackgroundOccurrenceAuthorityV1
  kind : ScheduleDecisionKind
  deriving DecidableEq

/-- The store, the reconciler, and what happened so far. -/
structure ReconcilerState where
  snapshot : AutomationSnapshotV1
  point : ReconcilePoint
  claims : List OccurrenceClaim
  running : List BackgroundOccurrenceAuthorityV1
  executed : List BackgroundOccurrenceAuthorityV1

inductive ReconcilerLabel where
  | control (next_token : String) (m : AutomationMutation)
  | stop
  | wake (host : ReconcilerHost) (tokens : ClaimTokens) (now : UtcTime)
  | claim (next_token : String)
  | skip (next_token : String)
  | prepare
  | on_ready (next_token process_identity_digest : String)
  | on_started (next_token process_identity_digest permit : String)
  | execute
  | finish (next_token : String) (result : OccurrenceExecutionResultV1) (report : WorkspaceReport)
  | recover (next_token : String) (recovered : Option OccurrenceExecutionResultV1)
      (report : WorkspaceReport)
  | purge (next_token : String) (delete : PurgeOwnedObjectV1 → PurgeCleanupOutcome)

/-- The mutations the management commands send. -/
def AutomationMutation.is_control : AutomationMutation → Bool
  | .create_proposal _ | .approve_revision _ _ _ | .stage_revision _ _ | .pause_automation _
  | .resume_automation _ | .cancel_automation _ | .begin_purge _ _ _ => true
  | _ => false

/-- What the supervisor has to show for a start. -/
def start_permit (authority : BackgroundOccurrenceAuthorityV1) (process_identity_digest : String) :
    String :=
  canonical_json_digest <| .dict <| JsonDict.of [
    ("authority_digest", .str authority.val.authority_digest),
    ("process_identity_digest", .str process_identity_digest),
    ("phase", .str "start_permit")]

/-- The occurrence the supervisor is in charge of. -/
def ReconcilePoint.supervised : ReconcilePoint → Option BackgroundOccurrenceAuthorityV1
  | .supervising authority | .dispatched authority _ | .started authority
  | .executed authority => some authority
  | _ => none

namespace ReconcilerState

/-- A refused mutation raises; the wake is over. -/
def or_asleep (st : ReconcilerState) (result : Controlled AutomationSnapshotV1)
    (next : AutomationSnapshotV1 → ReconcilerState) : ReconcilerState :=
  match result with
  | .ok s'   => next s'
  | .error _ => { st with point := .asleep }

/-- A callback that raises leaves the supervisor where it is. -/
def or_stay (st : ReconcilerState) (result : Controlled AutomationSnapshotV1)
    (next : AutomationSnapshotV1 → ReconcilerState) : ReconcilerState :=
  match result with
  | .ok s'   => next s'
  | .error _ => st

/-- The point behind an accepted claim. -/
def claimed_point (authority : BackgroundOccurrenceAuthorityV1) (kind : ScheduleDecisionKind) :
    ReconcilePoint :=
  if kind = .misfire_skipped then .skipping authority else .preparing authority

/-- One step; a label that does not apply where the reconciler stands is
    refused. -/
def step (st : ReconcilerState) : ReconcilerLabel → Except Unit ReconcilerState
  | .control next_token m =>
    if m.is_control then .ok <| st.or_stay (send st.snapshot next_token m) fun s' =>
      { st with snapshot := s' }
    else .error ()
  | .stop => .ok { st with point := .asleep }
  | .wake host tokens now =>
    match st.point with
    | .asleep => .ok { st with
        point := (reconcile host tokens now st.snapshot).toOption.getD .asleep }
    | _ => .error ()
  | .claim next_token =>
    match st.point with
    | .claiming authority kind =>
      .ok <| st.or_asleep (send st.snapshot next_token (.claim_occurrence authority)) fun s' =>
        { st with
          snapshot := s'
          point := claimed_point authority kind
          claims := st.claims ++ [⟨authority, kind⟩] }
    | _ => .error ()
  | .skip next_token =>
    match st.point with
    | .skipping authority =>
      .ok <| st.or_asleep
        (record_result st.snapshot next_token authority (misfire_result authority)) fun s' =>
        { st with snapshot := s', point := .asleep }
    | _ => .error ()
  -- the workspace, the executor's checkpoint, and its admission
  | .prepare =>
    match st.point with
    | .preparing authority => .ok { st with point := .supervising authority }
    | _ => .error ()
  | .on_ready next_token process =>
    match st.point with
    | .supervising authority =>
      .ok <| st.or_stay (send st.snapshot next_token (.mark_dispatched
        authority.val.automation_id authority.val.authority_digest process)) fun s' =>
        { st with snapshot := s', point := .dispatched authority (start_permit authority process) }
    | _ => .error ()
  | .on_started next_token process permit =>
    match st.point with
    | .dispatched authority expected =>
      if permit ≠ expected then .ok st
      else .ok <| st.or_stay (send st.snapshot next_token (.mark_running
        authority.val.automation_id authority.val.authority_digest process)) fun s' =>
        { st with
          snapshot := s'
          point := .started authority
          running := st.running ++ [authority] }
    | _ => .error ()
  | .execute =>
    match st.point with
    | .started authority => .ok { st with
        point := .executed authority
        executed := st.executed ++ [authority] }
    | _ => .error ()
  | .finish next_token result report =>
    match st.point.supervised with
    | some authority =>
      .ok <| st.or_asleep
        (record_result st.snapshot next_token authority (captured_result result report)) fun s' =>
        { st with snapshot := s', point := .asleep }
    | none => .error ()
  | .recover next_token recovered report =>
    match st.point with
    | .recovering authority recovery =>
      .ok <| st.or_asleep (record_result st.snapshot next_token authority
        (recovery_result authority report recovered recovery)) fun s' =>
        { st with snapshot := s', point := .asleep }
    | _ => .error ()
  | .purge next_token delete =>
    match st.point with
    | .purging record now =>
      .ok <| st.or_asleep ((·.2) <$> reconcile_purge delete next_token now st.snapshot record)
        fun s' => { st with snapshot := s', point := .asleep }
    | _ => .error ()

/-- A store nobody has used yet. -/
def initial (s : AutomationSnapshotV1) : ReconcilerState := ⟨s, .asleep, [], [], []⟩

end ReconcilerState

/-- The runs of the reconciler, its restarts and its users. -/
def reconciler_system : System Unit ReconcilerState ReconcilerLabel where
  step := ReconcilerState.step
