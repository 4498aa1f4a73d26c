import FirstAgent.Automation.Lifecycle

/-! # The Schedule Cursor

    The cursor of a record counts the finished occurrences of the approved
    definition: the history holds one summary for each index below it.  An
    approval starts a new count, so a claim that is still open under the old
    definition, when it closes, writes its own index into the new one's
    cursor. -/

open Fallible

/-! ### The account of a definition -/

/-- The summaries of the occurrences of a definition. -/
def AutomationRecordV1.summaries_of (r : AutomationRecordV1) (d : AutomationDefinitionV1) :
    List OccurrenceSummaryV1 :=
  r.val.terminal_history.filter fun x => x.val.definition_digest = d.val.definition_digest

/-- The summary is about the `k`-th occurrence of the definition. -/
def OccurrenceSummaryV1.is_occurrence (x : OccurrenceSummaryV1) (d : AutomationDefinitionV1)
    (k : Int) : Prop :=
  occurrence_identity d k x.val.scheduled_for_utc = .ok x.val.occurrence_id

/-- The summaries are those of the occurrences from 0 on, in order. -/
def Consecutive (d : AutomationDefinitionV1) (xs : List OccurrenceSummaryV1) : Prop :=
  ∀ k (h : k < xs.length), xs[k].is_occurrence d k

/-- The cursor and the count are the number of finished occurrences, and the
    history has one summary for each. -/
structure AutomationRecordV1.Counts (r : AutomationRecordV1) (d : AutomationDefinitionV1) :
    Prop where
  cursor : r.val.next_occurrence_index = (r.summaries_of d).length
  count : r.val.terminal_occurrence_count = (r.summaries_of d).length
  consecutive : Consecutive d (r.summaries_of d)

/-- The claim is for the next occurrence of the definition. -/
structure AutomationRecordV1.ClaimsNext (r : AutomationRecordV1) (d : AutomationDefinitionV1)
    (claim : BackgroundOccurrenceAuthorityV1) : Prop where
  digest : claim.val.definition_digest = d.val.definition_digest
  index : claim.val.occurrence_index = r.val.next_occurrence_index
  identity : occurrence_identity d claim.val.occurrence_index claim.val.scheduled_for_utc =
    .ok claim.val.occurrence_id

/-- The record's account of its approved definition. -/
structure AutomationRecordV1.Accounted (r : AutomationRecordV1) : Prop where
  counts : ∀ d, r.val.definition = some d → r.Counts d
  claims : ∀ d claim, r.val.definition = some d → r.val.active_claim = some claim →
    r.ClaimsNext d claim

/-- A revision is approved only while the automation has no open claim, and
    under a digest that no summary of the record bears. -/
def ApprovesIdle (s : AutomationSnapshotV1) (action : AutomationMutationV1) : Prop :=
  match action.val.mutation with
  | .approve_revision id d _ => (find_record s id).all fun r =>
      r.val.active_claim.isNone && r.val.terminal_history.all fun x =>
        x.val.definition_digest ≠ d.val.definition_digest
  | _ => True

instance (s : AutomationSnapshotV1) (action : AutomationMutationV1) :
    Decidable (ApprovesIdle s action) := by
  unfold ApprovesIdle
  cases action.val.mutation <;> infer_instance

/-! ### One change -/

section Accounts

variable {s s' : AutomationSnapshotV1} {r r' : AutomationRecordV1} {m : AutomationMutation}
  {d : AutomationDefinitionV1} {action : AutomationMutationV1}

theorem Consecutive.append {xs : List OccurrenceSummaryV1} {x : OccurrenceSummaryV1}
    (hxs : Consecutive d xs) (hx : x.is_occurrence d xs.length) : Consecutive d (xs ++ [x]) := by
  intro k hk
  by_cases hlast : k < xs.length
  · rw [List.getElem_append_left hlast]
    exact hxs k hlast
  · have hk : k = xs.length := by
      simp only [List.length_append, List.length_singleton] at hk
      omega
    subst hk
    simpa using hx

/-- A record without a definition has nothing to account for. -/
theorem accounted_of_none (h : r.val.definition = none) : r.Accounted where
  counts := by
    intro d hd
    rw [h] at hd
    cases hd
  claims := by
    intro d claim hd
    rw [h] at hd
    cases hd

/-- The account is a matter of five fields. -/
theorem AutomationRecordV1.Accounted.congr (h : r.Accounted)
    (hdefinition : r'.val.definition = r.val.definition)
    (hindex : r'.val.next_occurrence_index = r.val.next_occurrence_index)
    (hcount : r'.val.terminal_occurrence_count = r.val.terminal_occurrence_count)
    (hclaim : r'.val.active_claim = r.val.active_claim)
    (hhistory : r'.val.terminal_history = r.val.terminal_history) : r'.Accounted where
  counts := by
    intro d hd
    have hold := h.counts d (hdefinition ▸ hd)
    have hsummaries : r'.summaries_of d = r.summaries_of d := by
      rw [AutomationRecordV1.summaries_of, hhistory, ← AutomationRecordV1.summaries_of]
    exact ⟨by rw [hindex, hold.cursor, hsummaries], by rw [hcount, hold.count, hsummaries],
      hsummaries ▸ hold.consecutive⟩
  claims := by
    intro d claim hd hc
    have hold := h.claims d claim (hdefinition ▸ hd) (hclaim ▸ hc)
    exact ⟨hold.digest, by rw [hindex, hold.index], hold.identity⟩

/-- An approval opens an empty account. -/
theorem Accounted.approved (hnew : r'.val = { r.val with
      definition := some d
      draft_body := none
      status := approved_status r.val.status
      next_occurrence_index := 0
      terminal_occurrence_count := 0 })
    (hidle : r.val.active_claim = none)
    (hunused : ∀ x ∈ r.val.terminal_history, x.val.definition_digest ≠ d.val.definition_digest) :
    r'.Accounted where
  counts := by
    intro e he
    obtain rfl : d = e := by simpa [hnew] using he
    have hnone : r'.summaries_of d = [] := by
      simpa [AutomationRecordV1.summaries_of, hnew] using hunused
    refine ⟨by rw [hnone, hnew]; rfl, by rw [hnone, hnew]; rfl, ?_⟩
    rw [hnone]
    intro k hk
    cases hk
  claims := by
    intro e claim _ hclaim
    simp [hnew, hidle] at hclaim

/-- Closing a claim adds the summary of its occurrence. -/
theorem Accounted.closed {claim : BackgroundOccurrenceAuthorityV1} {summary : OccurrenceSummaryV1}
    (h : r.Accounted) (hclaim : r.val.active_claim = some claim)
    (hmatches : summary_matches summary claim = true)
    (hnew : r'.val = { r.val with
      status := closed_status r.val.status
      next_occurrence_index := claim.val.occurrence_index + 1
      terminal_occurrence_count := r.val.terminal_occurrence_count + 1
      needs_human_reason := .null
      active_claim := none
      active_claim_phase := none
      active_claim_definition := none
      active_process_identity_digest := .null
      terminal_history := r.val.terminal_history ++ [summary] }) : r'.Accounted where
  counts := by
    intro d hd
    have hd : r.val.definition = some d := by simpa [hnew] using hd
    have hold := h.counts d hd
    have hnext := h.claims d claim hd hclaim
    simp only [summary_matches, Bool.and_eq_true, decide_eq_true_eq] at hmatches
    obtain ⟨⟨⟨hid, htime⟩, hdigest⟩, _⟩ := hmatches
    have hsummaries : r'.summaries_of d = r.summaries_of d ++ [summary] := by
      simp [AutomationRecordV1.summaries_of, hnew, hdigest, hnext.digest]
    have hsummary : summary.is_occurrence d (r.summaries_of d).length := by
      rw [OccurrenceSummaryV1.is_occurrence, htime, hid, ← hold.cursor, ← hnext.index]
      exact hnext.identity
    refine ⟨?_, ?_, hsummaries ▸ hold.consecutive.append hsummary⟩
    · rw [hsummaries, hnew]
      simp [hnext.index, hold.cursor]
    · rw [hsummaries, hnew]
      simp [hold.count]
  claims := by
    intro d c _ hc
    simp [hnew] at hc

/-- A change keeps the account. -/
theorem RecordChange.accounted (h : RecordChange s r r' m) (hr : r.Accounted)
    (hidle : ∀ id d preview, m = .approve_revision id d preview → r.val.active_claim = none ∧
      ∀ x ∈ r.val.terminal_history, x.val.definition_digest ≠ d.val.definition_digest) :
    r'.Accounted := by
  cases h with
  | approve id preview d _ _ _ _ hnew =>
    obtain ⟨hclaim, hunused⟩ := hidle id d preview rfl
    exact Accounted.approved hnew hclaim hunused
  | begin_purge _ _ _ _ _ hnew => exact accounted_of_none (by rw [hnew])
  | claim authority d _ _ _ hdefinition hindex hdigest hidentity hnew =>
    have hcounts := hr.counts d hdefinition
    refine ⟨fun e he => ?_, fun e c he hc => ?_⟩
    · obtain rfl : d = e := by simpa [hnew, hdefinition] using he
      have hsummaries : r'.summaries_of d = r.summaries_of d := by
        simp [AutomationRecordV1.summaries_of, hnew]
      exact ⟨by rw [hsummaries, hnew]; exact hcounts.cursor,
        by rw [hsummaries, hnew]; exact hcounts.count, hsummaries ▸ hcounts.consecutive⟩
    · obtain rfl : d = e := by simpa [hnew, hdefinition] using he
      obtain rfl : authority = c := by simpa [hnew] using hc
      exact ⟨hdigest, by rw [hnew]; exact hindex, hidentity⟩
  | close _ _ _ _ _ hclaim _ _ hmatches _ _ hnew => exact Accounted.closed hr hclaim hmatches hnew
  | restart_object _ _ _ _ _ hnew => exact hnew ▸ hr
  -- the other changes leave the fields of the account
  | stage _ _ _ _ hnew | pause _ _ hnew | resume _ _ _ _ hnew | cancel _ _ hnew
  | start_object _ _ _ _ _ _ _ _ hnew | object_unknown _ _ _ _ hnew
  | object_confirmed _ _ _ _ _ _ _ _ hnew | dispatch _ _ _ _ _ _ _ hnew
  | run _ _ _ _ _ _ _ hnew | unresolve _ _ _ _ _ _ _ _ hnew =>
    exact hr.congr (by rw [hnew]) (by rw [hnew]) (by rw [hnew]) (by rw [hnew]) (by rw [hnew])

theorem accounted_step (h : handle s action = .ok s') (hidle : ApprovesIdle s action)
    (hs : ∀ id r, find_record s id = some r → r.Accounted) :
    ∀ id r, find_record s' id = some r → r.Accounted := by
  refine records_step (P := fun _ r => r.Accounted) h hs
    (fun r' hnone _ => accounted_of_none hnone) ?_ (fun _ hr => hr)
  intro r r' hr hchange hold
  refine hchange.accounted hold ?_
  intro id d preview hm
  rw [ApprovesIdle, hm] at hidle
  rw [hm] at hr
  simpa [show find_record s id = some r from hr] using hidle

end Accounts

/-! ### Runs -/

section Runs

variable {s₀ s : AutomationSnapshotV1} {actions : List AutomationMutationV1}

/-- **The cursor belongs to the definition**: in every run from an empty store
    whose approvals meet the condition, the cursor and the count of an idle
    record are the number of summaries of the approved definition, these are
    its occurrences from 0 on, and the next one is what a claim is accepted
    for. -/
theorem cursor_of_definition (hempty : s₀.val.is_empty)
    (hidle : automation_system.Along ApprovesIdle s₀ actions)
    (hrun : automation_system.run s₀ actions = .ok s) :
    (∀ r ∈ s.val.records, ∀ d, r.val.definition = some d → r.val.active_claim = none →
      r.Counts d) ∧
    ∀ action s' authority, handle s action = .ok s' →
      action.val.mutation = .claim_occurrence authority →
      ∃ r d, r ∈ s.val.records ∧ r.val.definition = some d ∧
        authority.val.definition_digest = d.val.definition_digest ∧
        authority.val.occurrence_index = (r.summaries_of d).length := by
  have hall : ∀ id r, find_record s id = some r → r.Accounted := by
    refine System.run_invariant_along
      (I := fun t => ∀ id r, find_record t id = some r → r.Accounted) ?_ ?_ hidle hrun
    · intro t action t' ht hcond h
      exact accounted_step h hcond ht
    · intro id r hr
      rw [records_of_empty hempty] at hr
      cases hr
  constructor
  · intro r hr d hd _
    exact (hall _ r (find_record_of_mem hr)).counts d hd
  · intro action s' authority h hm
    have hchange := (handle_change h).change
    rw [hm] at hchange
    cases hchange with
    | change _ r r' hr _ hrecord _ _ =>
      cases hrecord with
      | claim _ d _ _ _ hdefinition hindex hdigest _ _ =>
        have hcounts := (hall _ r hr).counts d hdefinition
        exact ⟨r, d, find_record_mem hr, hdefinition, hdigest, hindex.trans hcounts.cursor⟩

end Runs

/-! ### An account that is kept, and one that an old claim writes -/

section Fixed

/-- The claim of the first occurrence of the hourly automation. -/
def first_claim : BackgroundOccurrenceAuthorityV1 where
  val := {
    automation_id := "hourly"
    automation_revision := 1
    occurrence_id := "4215e7a5d2e6c1fb1bcd6e22cd818c6aa80fa9e57dad7ced83156897f54b67f6"
    occurrence_index := 0
    scheduled_for_utc := "2026-01-01T00:00:00Z"
    definition_digest := "c9f72cd58b86b684883e7f7a6d51d6f39ba6c00f2f82dde87e96ca4bbb197203"
    grant_digest := "144b31b5250715fbfbba80789b2bccd31e07086bd1ca5125971625d7d59ef20a"
    claim_fencing_token := "fence-1"
    checkpoint_identity := "59b774a5253e2bc8e357bdfc95e4f7a4b214734f6da65a9f53b40711a10ba16b"
    deadline_utc := "2026-01-01T00:10:00Z"
    raw_capability := "capability-of-the-first-occurrence"
    authority_digest := "a0e848bc906ecd922b9a83aa0a1f413d304a9dc074df77ef792631a518b14d69" }
  valid := by
    rw [BackgroundOccurrenceAuthorityFields.post_init,
      BackgroundOccurrenceAuthorityFields.expected_digest, canonical_json_digest_eq,
      canonical_json_digest_eq]
    decide +kernel

/-- An outcome of the first occurrence. -/
def first_summary_fields (status : OccurrenceControlStatus) : OccurrenceSummaryFields where
  occurrence_id := "4215e7a5d2e6c1fb1bcd6e22cd818c6aa80fa9e57dad7ced83156897f54b67f6"
  status := status
  scheduled_for_utc := "2026-01-01T00:00:00Z"
  definition_digest := "c9f72cd58b86b684883e7f7a6d51d6f39ba6c00f2f82dde87e96ca4bbb197203"
  checkpoint_identity_digest := "59b774a5253e2bc8e357bdfc95e4f7a4b214734f6da65a9f53b40711a10ba16b"
  result_digest := none
  replayed := false
  error_code := .str "outcome"

def first_summary (status : OccurrenceControlStatus) : OccurrenceSummaryV1 where
  val := first_summary_fields status
  valid := by
    -- no check looks at the status
    show (first_summary_fields .completed).post_init = .ok ()
    decide +kernel

/-- The first occurrence is claimed and runs. -/
def running_steps : List AutomationMutationV1 := [
  numbered 0 (.create_proposal hourly_body) numbered_create,
  numbered 1 (.approve_revision "hourly" hourly_definition preview_digest) numbered_approve,
  numbered 2 (.claim_occurrence first_claim),
  numbered 3 (.mark_dispatched "hourly" first_claim.val.authority_digest preview_digest),
  numbered 4 (.mark_running "hourly" first_claim.val.authority_digest preview_digest)]

def running_record : AutomationRecordV1 where
  val := {
    definition := some hourly_definition
    status := .active
    next_occurrence_index := 0
    terminal_occurrence_count := 0
    needs_human_reason := .null
    active_claim := some first_claim
    terminal_history := []
    active_claim_phase := some .running
    active_claim_definition := some hourly_definition
    active_process_identity_digest := .str preview_digest }
  valid := by decide +kernel

def running_snapshot : AutomationSnapshotV1 where
  val := {
    revision := 5
    snapshot_token := numbered_token 5
    records := [running_record]
    tombstones := [] }
  valid := by decide +kernel

theorem running_steps_run :
    automation_system.run empty_snapshot running_steps = .ok running_snapshot := by
  have hruns : succeeds (automation_system.run empty_snapshot running_steps)
      (fun s => s = running_snapshot) = true := by
    decide +kernel
  obtain ⟨s, hs, h⟩ := succeeds_iff.mp hruns
  rw [hs, of_decide_eq_true h]

/-- It completes. -/
def completing_steps : List AutomationMutationV1 := running_steps ++ [
  numbered 5 (.record_occurrence_outcome "hourly" first_claim.val.authority_digest
    (first_summary .completed))]

/-- The next revision is approved while it runs. -/
def overtaking_steps : List AutomationMutationV1 := [
  numbered 5 (.stage_revision "hourly" revised_body),
  numbered 6 (.approve_revision "hourly" revised_definition preview_digest),
  numbered 7 (.record_occurrence_outcome "hourly" first_claim.val.authority_digest
    (first_summary .completed))]

theorem completed_occurrence_counted : ∃ s,
    automation_system.run empty_snapshot completing_steps = .ok s ∧
    ∀ r ∈ s.val.records, ∀ d, r.val.definition = some d → r.val.active_claim = none →
      r.Counts d := by
  have hruns : (automation_system.check_along (fun s l => ApprovesIdle s l) empty_snapshot
      completing_steps && succeeds (automation_system.run empty_snapshot completing_steps)
        fun _ => true) = true := by
    decide +kernel
  obtain ⟨halong, h⟩ := (Bool.and_eq_true _ _).mp hruns
  obtain ⟨s, hs, _⟩ := succeeds_iff.mp h
  exact ⟨s, hs,
    (cursor_of_definition ⟨rfl, rfl⟩ (System.along_of_check halong) hs).1⟩

/-- The outcome of the old revision's occurrence moves the new revision's
    cursor past an occurrence that nobody claimed. -/
theorem old_outcome_moves_cursor : ∃ s r,
    automation_system.run empty_snapshot (running_steps ++ overtaking_steps) = .ok s ∧
    find_record s "hourly" = some r ∧ r.val.definition = some revised_definition ∧
    r.val.active_claim = none ∧ r.val.next_occurrence_index = 1 ∧
    r.summaries_of revised_definition = [] := by
  have hruns : succeeds (automation_system.run running_snapshot overtaking_steps) (fun s =>
      (find_record s "hourly").any fun r => r.val.definition = some revised_definition &&
        r.val.active_claim = none && r.val.next_occurrence_index = 1 &&
        r.summaries_of revised_definition = []) = true := by
    decide +kernel
  obtain ⟨s, hs, h⟩ := succeeds_iff.mp hruns
  obtain ⟨r, hr, h⟩ := (Option.any_eq_true _ _).mp h
  simp only [Bool.and_eq_true, decide_eq_true_eq] at h
  obtain ⟨⟨⟨hdefinition, hclaim⟩, hindex⟩, hsummaries⟩ := h
  exact ⟨s, r, System.run_append.mpr ⟨_, running_steps_run, hs⟩, hr, hdefinition, hclaim, hindex,
    hsummaries⟩

end Fixed
