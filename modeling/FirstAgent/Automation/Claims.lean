import FirstAgent.Automation.Cursor

/-! # Closing a Claim

    One claim is open in a snapshot at a time, so a claim that cannot be closed
    blocks every automation.  A claim is closed from the phases in which an
    occurrence is claimed or runs, while the history and the revision of the
    store have room; a claim parked for a human, or by an unknown outcome, is
    closed by no mutation. -/

open Fallible Controlled

/-! ### What holds of every claim -/

/-- A record with a claim is in use, and its history covers its count. -/
structure AutomationRecordV1.Claiming (r : AutomationRecordV1) : Prop where
  status : r.val.active_claim ≠ none →
    r.val.status = .active ∨ r.val.status = .paused ∨ r.val.status = .cancel_pending
  count : r.val.definition.isSome →
    r.val.terminal_occurrence_count ≤ r.val.terminal_history.length

/-- Two records of the snapshot do not both hold a claim. -/
def AutomationSnapshotV1.SingleClaim (s : AutomationSnapshotV1) : Prop :=
  ∀ i j r q, find_record s i = some r → find_record s j = some q →
    r.val.active_claim ≠ none → q.val.active_claim ≠ none → i = j

/-- Mutations that close a claim of this phase: none when no outcome is taken. -/
def OccurrenceControlStatus.closing_steps : OccurrenceControlStatus → Option Nat
  | .claimed    => some 1
  | .dispatched => some 2
  | .running    => some 1
  | _           => none

/-- The claim can be closed: its phase takes an outcome, and the history and
    the revision of the store have room for it. -/
def ClosingRoom (s : AutomationSnapshotV1) (r : AutomationRecordV1) : Prop :=
  ∃ phase n, r.val.active_claim_phase = some phase ∧ phase.closing_steps = some n ∧
    r.val.terminal_history.length < 128 ∧ s.val.revision + n ≤ 2 ^ 63 - 1

section Invariants

variable {s s' : AutomationSnapshotV1} {r r' : AutomationRecordV1} {m : AutomationMutation}
  {action : AutomationMutationV1} {id : String}

theorem RecordChange.claiming (h : RecordChange s r r' m) (hr : r.Claiming) : r'.Claiming := by
  cases h with
  | approve _ _ _ _ hdraft _ _ hnew =>
    refine ⟨fun hclaim => ?_, fun _ => by simp [hnew]⟩
    have hclaim : r.val.active_claim ≠ none := by simpa [hnew] using hclaim
    rcases hr.status hclaim with h | h | h <;> simp [hnew, h, approved_status]
  | begin_purge _ _ _ _ _ hnew => exact ⟨by simp [hnew], by simp [hnew]⟩
  | claim _ _ hactive _ _ _ _ _ _ hnew =>
    exact ⟨fun _ => by simp [hnew, hactive], by simpa [hnew] using hr.count⟩
  | close _ _ _ _ _ _ _ _ _ _ _ hnew =>
    refine ⟨by simp [hnew], fun hdefinition => ?_⟩
    have := hr.count (by simpa [hnew] using hdefinition)
    simp only [hnew, List.length_append, List.length_singleton]
    omega
  | cancel _ _ hnew =>
    refine ⟨fun hclaim => ?_, by simpa [hnew] using hr.count⟩
    have hclaim : r.val.active_claim ≠ none := by simpa [hnew] using hclaim
    simp [hnew, canceled_status, Option.isSome_iff_ne_none.mpr hclaim]
  | restart_object _ _ _ _ _ hnew => exact hnew ▸ hr
  | stage _ _ _ _ hnew | start_object _ _ _ _ _ _ _ _ hnew | object_unknown _ _ _ _ hnew
  | object_confirmed _ _ _ _ _ _ _ _ hnew | dispatch _ _ _ _ _ _ _ hnew
  | run _ _ _ _ _ _ _ hnew =>
    exact ⟨by simpa [hnew] using hr.status, by simpa [hnew] using hr.count⟩
  | pause _ _ hnew | resume _ _ _ _ hnew | unresolve _ _ _ _ _ _ _ _ hnew =>
    exact ⟨fun _ => by simp [hnew], by simpa [hnew] using hr.count⟩

theorem claiming_step (h : handle s action = .ok s')
    (hs : ∀ id r, find_record s id = some r → r.Claiming) :
    ∀ id r, find_record s' id = some r → r.Claiming := by
  refine records_step (P := fun _ r => r.Claiming) h hs ?_ ?_ (fun _ hr => hr)
  · intro r' hdefinition hclaim
    exact ⟨fun h => absurd hclaim h, by simp [hdefinition]⟩
  · intro r r' _ hchange hr
    exact hchange.claiming hr

/-- A change opens a claim only while there is none in the snapshot. -/
theorem RecordChange.claim_kept (h : RecordChange s r r' m) (hclaim : r'.val.active_claim ≠ none) :
    r.val.active_claim ≠ none ∨ s.unclaimed := by
  cases h with
  | begin_purge _ _ _ _ _ hnew => simp [hnew] at hclaim
  | claim _ _ _ hfree _ _ _ _ _ _ => exact .inr hfree
  | close _ _ _ _ _ _ _ _ _ _ _ hnew => simp [hnew] at hclaim
  | restart_object _ _ _ _ _ hnew => exact .inl (hnew ▸ hclaim)
  | approve _ _ _ _ _ _ _ hnew | stage _ _ _ _ hnew | pause _ _ hnew | resume _ _ _ _ hnew
  | cancel _ _ hnew | start_object _ _ _ _ _ _ _ _ hnew | object_unknown _ _ _ _ hnew
  | object_confirmed _ _ _ _ _ _ _ _ hnew | dispatch _ _ _ _ _ _ _ hnew
  | run _ _ _ _ _ _ _ hnew | unresolve _ _ _ _ _ _ _ _ hnew =>
    exact .inl (by simpa [hnew] using hclaim)

theorem single_claim_step (h : handle s action = .ok s') (hs : s.SingleClaim) :
    s'.SingleClaim := by
  have hstep := (handle_change h).change
  generalize action.val.mutation = m at hstep
  intro i j p q hp hq hpc hqc
  cases hstep with
  | create body r' _ hnew _ _ hfound =>
    have hnone : r'.val.active_claim = none := by rw [hnew]
    rw [hfound] at hp hq
    split at hp
    · obtain rfl := Option.some.inj hp
      exact absurd hnone hpc
    · split at hq
      · obtain rfl := Option.some.inj hq
        exact absurd hnone hqc
      · exact hs i j p q hp hq hpc hqc
  | change _ r r' hr hid hrecord _ hfound =>
    -- the changed record held its claim before, or no record did
    have kept (k : String) (x : AutomationRecordV1) (hx : find_record s' k = some x)
        (hxc : x.val.active_claim ≠ none) :
        s.unclaimed ∨ ∃ y, find_record s k = some y ∧ y.val.active_claim ≠ none := by
      rw [hfound] at hx
      split at hx
      · obtain rfl := Option.some.inj hx
        rcases hrecord.claim_kept hxc with h | h
        · subst_vars
          exact .inr ⟨r, hr, h⟩
        · exact .inl h
      · exact .inr ⟨x, hx, hxc⟩
    by_cases hfree : s.unclaimed
    · -- a claim of the old snapshot would contradict that
      have only (k : String) (x : AutomationRecordV1) (hx : find_record s' k = some x)
          (hxc : x.val.active_claim ≠ none) : k = m.automation_id := by
        by_contra hk
        rw [hfound, if_neg hk] at hx
        exact hxc (hfree x (find_record_mem hx))
      exact (only i p hp hpc).trans (only j q hq hqc).symm
    · obtain ⟨p', hp', hpc'⟩ := (kept i p hp hpc).resolve_left hfree
      obtain ⟨q', hq', hqc'⟩ := (kept j q hq hqc).resolve_left hfree
      exact hs i j p' q' hp' hq' hpc' hqc'
  | finish _ _ _ _ _ _ _ _ _ _ _ _ _ hfound =>
    rw [hfound] at hp hq
    split at hp
    · cases hp
    · split at hq
      · cases hq
      · exact hs i j p q hp hq hpc hqc

end Invariants

/-! ### Claims nothing closes -/

section Parked

variable {s s' : AutomationSnapshotV1} {r r' : AutomationRecordV1} {m : AutomationMutation}
  {action : AutomationMutationV1} {actions : List AutomationMutationV1} {id : String}

/-- The record holds a claim whose phase takes no outcome, or its history is
    full. -/
def AutomationRecordV1.is_parked (r : AutomationRecordV1) : Prop :=
  r.val.active_claim ≠ none ∧
    (128 ≤ r.val.terminal_history.length ∨
      ∃ phase, r.val.active_claim_phase = some phase ∧ phase.closing_steps = none)

theorem unresolved_takes_no_step {phase : OccurrenceControlStatus}
    (h : phase.is_unresolved = true) : phase.closing_steps = none := by
  cases phase <;> first | rfl | cases h

theorem closes_phase_steps {phase outcome : OccurrenceControlStatus}
    (h : closes_phase phase outcome = true) : phase.closing_steps = some 1 := by
  cases phase <;> first | rfl | cases h

/-- A parked claim stays parked. -/
theorem RecordChange.parked (h : RecordChange s r r' m) (hr : r.is_parked) : r'.is_parked := by
  obtain ⟨hclaim, hparked⟩ := hr
  cases h with
  | begin_purge _ _ _ _ hidle _ => exact absurd hidle hclaim
  | claim _ _ _ _ hidle _ _ _ _ _ => exact absurd hidle hclaim
  | dispatch _ _ _ _ _ _ hphase hnew =>
    rcases hparked with hfull | ⟨phase, hp, hsteps⟩
    · exact ⟨by simp [hnew, hclaim], .inl (by simpa [hnew] using hfull)⟩
    · obtain rfl := Option.some.inj (hp.symm.trans hphase)
      cases hsteps
  | run _ _ _ _ _ _ hphase hnew =>
    rcases hparked with hfull | ⟨phase, hp, hsteps⟩
    · exact ⟨by simp [hnew, hclaim], .inl (by simpa [hnew] using hfull)⟩
    · obtain rfl := Option.some.inj (hp.symm.trans hphase)
      cases hsteps
  | unresolve _ _ summary _ _ _ _ hunresolved hnew =>
    exact ⟨by simp [hnew, hclaim],
      .inr ⟨summary.val.status, by rw [hnew], unresolved_takes_no_step hunresolved⟩⟩
  | close _ _ _ _ phase _ _ hphase _ hcloses hroom _ =>
    rcases hparked with hfull | ⟨q, hq, hsteps⟩
    · omega
    · obtain rfl := Option.some.inj (hq.symm.trans hphase)
      rw [closes_phase_steps hcloses] at hsteps
      cases hsteps
  | restart_object _ _ _ _ _ hnew => exact hnew ▸ ⟨hclaim, hparked⟩
  | approve _ _ _ _ _ _ _ hnew | stage _ _ _ _ hnew | pause _ _ hnew | resume _ _ _ _ hnew
  | cancel _ _ hnew | start_object _ _ _ _ _ _ _ _ hnew | object_unknown _ _ _ _ hnew
  | object_confirmed _ _ _ _ _ _ _ _ hnew =>
    exact ⟨by simpa [hnew] using hclaim, by simpa [hnew] using hparked⟩

/-- One automation's claim, left alone by the mutations of the others. -/
theorem parked_step (h : handle s action = .ok s')
    (hs : ∃ r, find_record s id = some r ∧ r.is_parked) :
    ∃ r, find_record s' id = some r ∧ r.is_parked := by
  obtain ⟨q, hq, hparked⟩ := hs
  have hstep := (handle_change h).change
  generalize action.val.mutation = m at hstep
  cases hstep with
  | create body r' hfresh _ _ _ hfound =>
    have hne : id ≠ body.val.automation_id := by
      rintro rfl
      rw [hfresh] at hq
      cases hq
    exact ⟨q, by rw [hfound, if_neg hne, hq], hparked⟩
  | change _ r r' hr _ hrecord _ hfound =>
    by_cases heq : id = m.automation_id
    · subst heq
      obtain rfl := Option.some.inj (hq.symm.trans hr)
      exact ⟨r', by rw [hfound, if_pos rfl], hrecord.parked hparked⟩
    · exact ⟨q, by rw [hfound, if_neg heq, hq], hparked⟩
  | finish i _ r _ _ hr hpurging _ _ _ _ _ _ hfound =>
    have hne : id ≠ i := by
      rintro rfl
      obtain rfl := Option.some.inj (hq.symm.trans hr)
      exact hparked.1 (purging_empty hpurging).1
    exact ⟨q, by rw [hfound, if_neg hne, hq], hparked⟩

/-- No run closes a parked claim. -/
theorem parked_forever (hr : find_record s id = some r) (hparked : r.is_parked)
    (hrun : automation_system.run s actions = .ok s') : ¬ s'.unclaimed := by
  have hend : ∃ q, find_record s' id = some q ∧ q.is_parked :=
    System.run_invariant (I := fun t => ∃ q, find_record t id = some q ∧ q.is_parked)
      (fun t action t' ht h => parked_step h ht) ⟨r, hr, hparked⟩ hrun
  obtain ⟨q, hq, hclaim, _⟩ := hend
  intro hfree
  exact hclaim (hfree q (find_record_mem hq))

/-- Every mutation takes one revision of the store. -/
theorem run_revision (hrun : automation_system.run s actions = .ok s') :
    s'.val.revision = s.val.revision + actions.length := by
  induction actions generalizing s with
  | nil =>
    obtain rfl := System.run_nil.mp hrun
    simp
  | cons action actions ih =>
    obtain ⟨t, ht, hrest⟩ := System.run_cons.mp hrun
    have hrevision := (handle_change ht).revision
    rw [ih hrest, hrevision, List.length_cons]
    push_cast
    omega

/-- A mutation that closes a claim finds it in a phase that takes an outcome. -/
theorem closing_phase (h : handle s action = .ok s') (hr : find_record s id = some r)
    (hclaim : r.val.active_claim ≠ none) (hfree : s'.unclaimed) :
    ∃ phase, r.val.active_claim_phase = some phase ∧ phase.closing_steps = some 1 := by
  have hstep := (handle_change h).change
  generalize action.val.mutation = m at hstep
  -- the record is there after the mutation, and holds no claim any more
  cases hstep with
  | create body r' hfresh _ _ _ hfound =>
    have hne : id ≠ body.val.automation_id := by
      rintro rfl
      rw [hfresh] at hr
      cases hr
    have hsame : find_record s' id = some r := by rw [hfound, if_neg hne, hr]
    exact absurd (hfree r (find_record_mem hsame)) hclaim
  | finish i _ q _ _ hq hpurging _ _ _ _ _ _ hfound =>
    have hne : id ≠ i := by
      rintro rfl
      obtain rfl := Option.some.inj (hr.symm.trans hq)
      exact hclaim (purging_empty hpurging).1
    have hsame : find_record s' id = some r := by rw [hfound, if_neg hne, hr]
    exact absurd (hfree r (find_record_mem hsame)) hclaim
  | change _ q r' hq _ hrecord _ hfound =>
    by_cases heq : id = m.automation_id
    · subst heq
      obtain rfl := Option.some.inj (hr.symm.trans hq)
      have hgone : r'.val.active_claim = none :=
        hfree r' (find_record_mem (show find_record s' m.automation_id = some r' by
          rw [hfound, if_pos rfl]))
      cases hrecord with
      | close _ _ _ _ phase _ _ hphase _ hcloses _ _ =>
        exact ⟨phase, hphase, closes_phase_steps hcloses⟩
      | begin_purge _ _ _ _ hidle _ => exact absurd hidle hclaim
      | claim _ _ _ _ hidle _ _ _ _ _ => exact absurd hidle hclaim
      | restart_object _ _ _ _ _ hnew => exact absurd (hnew ▸ hgone) hclaim
      | approve _ _ _ _ _ _ _ hnew | stage _ _ _ _ hnew | pause _ _ hnew
      | resume _ _ _ _ hnew | cancel _ _ hnew | start_object _ _ _ _ _ _ _ _ hnew
      | object_unknown _ _ _ _ hnew | object_confirmed _ _ _ _ _ _ _ _ hnew
      | dispatch _ _ _ _ _ _ _ hnew | run _ _ _ _ _ _ _ hnew
      | unresolve _ _ _ _ _ _ _ _ hnew =>
        exact absurd (by simpa [hnew] using hgone) hclaim
    · have hsame : find_record s' id = some r := by rw [hfound, if_neg heq, hr]
      exact absurd (hfree r (find_record_mem hsame)) hclaim

end Parked

/-! ### Closing -/

section Closing

variable {s s' : AutomationSnapshotV1} {r : AutomationRecordV1}
  {claim : BackgroundOccurrenceAuthorityV1} {phase outcome : OccurrenceControlStatus} {id : String}

/-- What the constructor of an authority checks, as far as summaries repeat
    it. -/
theorem authority_checks (claim : BackgroundOccurrenceAuthorityV1) :
    PyText.is_opaque_id claim.val.automation_id = true ∧
    PyText.is_opaque_id claim.val.occurrence_id = true ∧
    (0 ≤ claim.val.occurrence_index ∧ claim.val.occurrence_index ≤ 127) ∧
    (∃ t, parse_canonical_utc claim.val.scheduled_for_utc "scheduled_for_utc" = .ok t) ∧
    PyText.is_lower_hex claim.val.definition_digest 64 = true ∧
    PyText.is_lower_hex claim.val.checkpoint_identity 64 = true ∧
    PyText.is_lower_hex claim.val.authority_digest 64 = true := by
  have hvalid := claim.valid
  simp only [BackgroundOccurrenceAuthorityFields.post_init, Py.require_opaque_id, Py.require_hex64,
    Py.require_positive_int, Py.require_nonnegative_int, bind_eq_ok, Py.refuse_value_eq_ok,
    Bool.not_eq_false, not_or, not_lt, exists_const, not_not] at hvalid
  obtain ⟨hid, hoccurrence, _, _, hindex, t, ht, hdefinition, _, hcheckpoint, _, _, _, hdigest⟩ :=
    hvalid
  refine ⟨hid, hoccurrence, hindex, ⟨t, ht⟩, hdefinition, hcheckpoint, ?_⟩
  rw [hdigest]
  exact is_lower_hex_canonical_json_digest _

/-- A summary of the claimed occurrence with this outcome. -/
def outcome_summary (claim : BackgroundOccurrenceAuthorityV1) (outcome : OccurrenceControlStatus) :
    OccurrenceSummaryV1 where
  val := {
    occurrence_id := claim.val.occurrence_id
    status := outcome
    scheduled_for_utc := claim.val.scheduled_for_utc
    definition_digest := claim.val.definition_digest
    checkpoint_identity_digest := claim.val.checkpoint_identity
    result_digest := none
    replayed := false
    error_code := .null }
  valid := by
    obtain ⟨_, hid, _, ⟨t, ht⟩, hdefinition, hcheckpoint, _⟩ := authority_checks claim
    simp only [OccurrenceSummaryFields.post_init, Py.require_opaque_id, Py.require_hex64,
      Py.require_hex64_or_none, bind_eq_ok, Py.refuse_value_eq_ok, Bool.not_eq_false, exists_const,
      Option.elim_none, and_true]
    exact ⟨hid, t, ht, hdefinition, hcheckpoint⟩

theorem outcome_summary_matches : summary_matches (outcome_summary claim outcome) claim = true := by
  simp [summary_matches, outcome_summary]

/-- A record in use has an approved definition and carries no purge. -/
theorem in_use_parts (h : r.val.status = .active ∨ r.val.status = .paused ∨
    r.val.status = .cancel_pending) :
    r.val.definition.isSome ∧ r.val.purge_manifest = none ∧
      r.val.purge_confirmed_object_ids = [] ∧ r.val.purge_active_object_id = none ∧
      r.val.purge_cleanup_unknown_object_id = none := by
  have hstatus := r.checks.status
  have hpurge := r.checks.purge
  simp only [AutomationRecordFields.check_purge, bind_eq_ok, Py.refuse_value_eq_ok, not_and, not_or,
    exists_const] at hpurge
  have hdefinition : r.val.definition.isSome := by
    rcases h with h | h | h <;>
      simpa [AutomationRecordFields.check_status, h, Py.refuse_value_eq_ok,
        Option.isSome_iff_ne_none] using hstatus
  obtain ⟨hmanifest, hconfirmed, hactive, hunknown⟩ :=
    hpurge.1 (by rcases h with h | h | h <;> simp [h])
  exact ⟨hdefinition, by simpa using hmanifest, by simpa using hconfirmed, by simpa using hactive,
    by simpa using hunknown⟩

/-- The fields a record has once its claim is closed. -/
def closed_fields (r : AutomationRecordV1) (claim : BackgroundOccurrenceAuthorityV1)
    (summary : OccurrenceSummaryV1) : AutomationRecordFields :=
  { r.val with
    status := closed_status r.val.status
    next_occurrence_index := claim.val.occurrence_index + 1
    terminal_occurrence_count := r.val.terminal_occurrence_count + 1
    needs_human_reason := .null
    active_claim := none
    active_claim_phase := none
    active_claim_definition := none
    active_process_identity_digest := .null
    terminal_history := r.val.terminal_history ++ [summary] }

theorem closed_fields_valid (summary : OccurrenceSummaryV1) (hr : r.Claiming)
    (hclaim : r.val.active_claim = some claim) (hroom : r.val.terminal_history.length < 128) :
    (closed_fields r claim summary).post_init = .ok () := by
  have hstatus := hr.status (by simp [hclaim])
  obtain ⟨hdefinition, hmanifest, hconfirmed, hactive, hunknown⟩ := in_use_parts hstatus
  have hcount := hr.count hdefinition
  obtain ⟨_, _, hindex, _⟩ := authority_checks claim
  refine AutomationRecordFields.post_init_eq_ok.mpr {
    index := ⟨by simp only [closed_fields]; omega, by simp only [closed_fields]; omega⟩
    count := ?_
    reason := fun h => absurd rfl h
    status := ?_
    purge := ?_
    draft := r.checks.draft
    claim := by simp [AutomationRecordFields.check_claim, closed_fields, Py.refuse_value_eq_ok]
    history := by simp only [closed_fields, List.length_append, List.length_singleton]; omega }
  · have := r.checks.count
    simp only [closed_fields]
    omega
  · rcases hstatus with h | h | h <;>
      simp [AutomationRecordFields.check_status, closed_fields, closed_status, h,
        Py.refuse_value_eq_ok, Option.isSome_iff_ne_none.mp hdefinition]
  · simp [AutomationRecordFields.check_purge, closed_fields, hmanifest, hconfirmed, hactive,
      hunknown, bind_eq_ok, Py.refuse_value_eq_ok]

theorem in_use_nonterminal (hr : r.Claiming) (hclaim : r.val.active_claim = some claim) :
    r.val.status.is_nonterminal = true := by
  rcases hr.status (by simp [hclaim]) with h | h | h <;> rw [h] <;> rfl

/-- A record in use stands under an opaque id. -/
theorem in_use_id (hfound : find_record s id = some r) (hr : r.Claiming)
    (hclaim : r.val.active_claim = some claim) : PyText.is_opaque_id id = true := by
  obtain ⟨d, hd⟩ := Option.isSome_iff_exists.mp (in_use_parts (hr.status (by simp [hclaim]))).1
  have hbody := d.val.body.valid
  simp only [AutomationDefinitionBodyFields.post_init, Py.require_opaque_id, bind_eq_ok,
    Py.refuse_value_eq_ok, Bool.not_eq_false] at hbody
  obtain ⟨_, hid_ok, _⟩ := hbody
  rw [← find_record_id hfound, automation_id_of_definition hd]
  exact hid_ok

/-- A summary of the claim with an outcome its phase takes is accepted while
    there is room. -/
theorem summary_accepted {token : String} (summary : OccurrenceSummaryV1)
    (hfound : find_record s id = some r) (hr : r.Claiming)
    (hclaim : r.val.active_claim = some claim) (hphase : r.val.active_claim_phase = some phase)
    (hmatches : summary_matches summary claim = true)
    (hcloses : closes_phase phase summary.val.status = true)
    (hroom : r.val.terminal_history.length < 128) (hrevision : s.val.revision < 2 ^ 63 - 1)
    (hlength : 16 ≤ token.toList.length) (hfresh : token ≠ s.val.snapshot_token) :
    ∃ s', send s token (.record_occurrence_outcome id claim.val.authority_digest summary) =
      .ok s' := by
  have hvalid := closed_fields_valid summary hr hclaim hroom
  have hid : AutomationRecordV1.automation_id ⟨_, hvalid⟩ = id :=
    kept_record_id (r := r) hfound rfl rfl rfl
  -- the closed record may stand where the open one stood
  obtain ⟨s', hs'⟩ := replace_record_accepts (s := s) (r := r) ⟨_, hvalid⟩
    (by rw [hid]; exact hfound) hlength hrevision
    fun _ => in_use_nonterminal hr hclaim
  have hsafe : summary.val.status.is_safe_terminal = true ∧
      summary.val.status.is_unresolved = false := by
    revert hcloses
    cases phase <;> cases summary.val.status <;> simp [closes_phase,
      OccurrenceControlStatus.is_safe_terminal, OccurrenceControlStatus.is_unresolved]
  have hreduce : record_occurrence_outcome s token id claim.val.authority_digest summary =
      .ok s' := by
    simp only [record_occurrence_outcome, bind_eq_ok, Prod.exists, require_exact_claim_eq_ok,
      asserted_eq_ok, refuse_transition_eq_ok, ite_eq_ok, construct_eq_ok, Checked.make_eq_ok,
      Bool.not_eq_false, not_and, not_le]
    refine ⟨r, claim, ⟨hfound, hclaim, rfl⟩, phase, hphase, (), hmatches, (),
      fun _ => hcloses, .inr ⟨by simp [hsafe.2], (), hsafe.1, (), hroom, ⟨_, hvalid⟩, rfl, hs'⟩⟩
  obtain ⟨_, _, _, _, _, _, hdigest⟩ := authority_checks claim
  have hm : AutomationMutationFields.check_mutation (.record_occurrence_outcome id
      claim.val.authority_digest summary) = .ok () := by
    simp only [AutomationMutationFields.check_mutation, Py.require_opaque_id, Py.require_hex64,
      bind_eq_ok, Py.refuse_value_eq_ok, Bool.not_eq_false, exists_const]
    exact ⟨in_use_id hfound hr hclaim, hdigest⟩
  exact ⟨s', send_eq_ok.mpr ⟨hm, hlength, hfresh, by simpa [reduce] using hreduce⟩⟩

/-- An outcome the phase of the claim takes is accepted while there is room. -/
theorem outcome_accepted (hfound : find_record s id = some r) (hr : r.Claiming)
    (hclaim : r.val.active_claim = some claim) (hphase : r.val.active_claim_phase = some phase)
    (hcloses : closes_phase phase outcome = true) (hroom : r.val.terminal_history.length < 128)
    (hrevision : s.val.revision < 2 ^ 63 - 1) :
    ∃ (action : AutomationMutationV1) (s' : AutomationSnapshotV1),
      action.val.mutation = .record_occurrence_outcome id claim.val.authority_digest
        (outcome_summary claim outcome) ∧ handle s action = .ok s' := by
  obtain ⟨token, hlength, hfresh⟩ := fresh_token s.val.snapshot_token
  obtain ⟨s', hs'⟩ := summary_accepted _ hfound hr hclaim hphase
    (outcome_summary_matches ) hcloses hroom hrevision hlength hfresh
  obtain ⟨action, haction, _, h⟩ := handle_of_send hs'
  exact ⟨action, s', haction, h⟩

/-- A dispatched occurrence can be started by the process it was given to. -/
theorem running_accepted (hfound : find_record s id = some r) (hr : r.Claiming)
    (hclaim : r.val.active_claim = some claim)
    (hphase : r.val.active_claim_phase = some .dispatched) (hrevision : s.val.revision < 2 ^ 63 - 1) :
    ∃ (action : AutomationMutationV1) (s' : AutomationSnapshotV1) (r' : AutomationRecordV1),
      handle s action = .ok s' ∧ find_record s' id = some r' ∧ r'.val.active_claim = some claim ∧
      r'.val.active_claim_phase = some .running ∧
      r'.val.terminal_history = r.val.terminal_history := by
  obtain ⟨token, hlength, hfresh⟩ := fresh_token s.val.snapshot_token
  have hchecks := r.checks
  -- the process that was given the occurrence is named by a digest
  have hprocess := hchecks.claim
  simp only [AutomationRecordFields.check_claim, hclaim, bind_eq_ok, Py.expect_value_eq_ok,
    Py.refuse_value_eq_ok] at hprocess
  obtain ⟨phase, hp, _, _, d, hd, _, hmatches, hprocess⟩ := hprocess
  obtain rfl := Option.some.inj (hphase.symm.trans hp)
  simp only [AutomationRecordFields.check_process, bind_eq_ok, Py.refuse_value_eq_ok] at hprocess
  obtain ⟨_, _, hprocess⟩ := hprocess
  obtain ⟨process, hp⟩ : ∃ p, r.val.active_process_identity_digest = .str p := by
    cases hv : r.val.active_process_identity_digest with
    | str p => exact ⟨p, rfl⟩
    | _ => simp [hv, AutomationRecordFields.require_hex64_value, Py.refuse_value_eq_ok] at hprocess
  simp only [hp, AutomationRecordFields.require_hex64_value] at hprocess
  have hvalid : AutomationRecordFields.post_init
      { r.val with active_claim_phase := some .running } = .ok () := by
    refine AutomationRecordFields.post_init_eq_ok.mpr { hchecks with claim := ?_ }
    simp [AutomationRecordFields.check_claim, hclaim, hd, hmatches, hp, hprocess, bind_eq_ok,
      AutomationRecordFields.check_process, AutomationRecordFields.require_hex64_value,
      Py.refuse_value_eq_ok, Py.expect_value_eq_ok, OccurrenceControlStatus.is_live]
  have hid : AutomationRecordV1.automation_id ⟨_, hvalid⟩ = id :=
    kept_record_id (r := r) hfound rfl rfl rfl
  obtain ⟨s', hs'⟩ := replace_record_accepts (s := s) (r := r) ⟨_, hvalid⟩
    (by rw [hid]; exact hfound) hlength hrevision fun _ => in_use_nonterminal hr hclaim
  have hreduce : mark_running s token id claim.val.authority_digest process = .ok s' := by
    simp only [mark_running, bind_eq_ok, Prod.exists, require_exact_claim_eq_ok,
      refuse_transition_eq_ok, construct_eq_ok, Checked.make_eq_ok, not_not]
    exact ⟨r, claim, ⟨hfound, hclaim, rfl⟩, (), hphase, (), hp, ⟨_, hvalid⟩, rfl, hs'⟩
  obtain ⟨_, _, _, _, _, _, hdigest⟩ := authority_checks claim
  have hm : AutomationMutationFields.check_mutation (.mark_running id claim.val.authority_digest
      process) = .ok () := by
    simp only [AutomationMutationFields.check_mutation, Py.require_opaque_id, Py.require_hex64,
      bind_eq_ok, Py.refuse_value_eq_ok, Bool.not_eq_false, exists_const]
    refine ⟨in_use_id hfound hr hclaim, hdigest, ?_⟩
    simpa [Py.require_hex64, Py.refuse_value_eq_ok] using hprocess
  obtain ⟨action, _, _, h⟩ := handle_of_send
    (send_eq_ok.mpr ⟨hm, hlength, hfresh, by simpa [reduce] using hreduce⟩)
  have hwrite := replace_record_ok (s := s) (r := r) ⟨_, hvalid⟩ (by rw [hid]; exact hfound)
    hs'
  exact ⟨action, s', ⟨_, hvalid⟩, h, by rw [hwrite.found, hid, if_pos rfl], hclaim, rfl, rfl⟩

end Closing

/-! ### Runs -/

section Runs

variable {s₀ s s' : AutomationSnapshotV1} {actions : List AutomationMutationV1}
  {r : AutomationRecordV1} {claim : BackgroundOccurrenceAuthorityV1} {id : String}

theorem reachable_claiming (hempty : s₀.val.is_empty)
    (hrun : automation_system.run s₀ actions = .ok s) (hr : find_record s id = some r) :
    r.Claiming := by
  have hall : ∀ id r, find_record s id = some r → r.Claiming := by
    refine System.run_invariant (I := fun t => ∀ id r, find_record t id = some r → r.Claiming)
      (fun t action t' ht h => claiming_step h ht) ?_ hrun
    intro id r hr
    rw [records_of_empty hempty] at hr
    cases hr
  exact hall id r hr

theorem reachable_single_claim (hempty : s₀.val.is_empty)
    (hrun : automation_system.run s₀ actions = .ok s) : s.SingleClaim := by
  refine System.run_invariant (I := AutomationSnapshotV1.SingleClaim)
    (fun t action t' ht h => single_claim_step h ht) ?_ hrun
  intro i j r q hr
  rw [records_of_empty hempty] at hr
  cases hr

/-- A claim that a mutation closed was the only one. -/
theorem unclaimed_of_closed {action : AutomationMutationV1} (hsingle : s.SingleClaim)
    (hr : find_record s id = some r) (hclaim : r.val.active_claim = some claim)
    {digest : String} {summary : OccurrenceSummaryV1}
    (hm : action.val.mutation = .record_occurrence_outcome id digest summary)
    (hsafe : summary.val.status.is_unresolved = false) (h : handle s action = .ok s') :
    s'.unclaimed := by
  have hchange := (handle_change h).change
  rw [hm] at hchange
  cases hchange with
  | change _ q r' hq _ hrecord _ hfound =>
    obtain rfl := Option.some.inj (hr.symm.trans hq)
    have hclosed : r'.val.active_claim = none := by
      cases hrecord with
      | unresolve _ _ _ _ _ _ _ hunresolved _ =>
        rw [hsafe] at hunresolved
        cases hunresolved
      | close _ _ _ _ _ _ _ _ _ _ _ hnew => rw [hnew]
    intro x hx
    have hx := find_record_of_mem hx
    rw [hfound] at hx
    split at hx
    · obtain rfl := Option.some.inj hx
      exact hclosed
    · rename_i hne
      by_contra hxc
      exact hne (hsingle _ _ x r hx hr hxc (by simp [hclaim]))

theorem safe_of_closes {phase outcome : OccurrenceControlStatus}
    (h : closes_phase phase outcome = true) : outcome.is_unresolved = false := by
  revert h
  cases phase <;> cases outcome <;> simp [closes_phase, OccurrenceControlStatus.is_unresolved]

/-- Some outcome closes a claim of this phase in one step. -/
theorem some_outcome_closes {phase : OccurrenceControlStatus} (h : phase.closing_steps = some 1) :
    closes_phase phase .canceled = true := by
  cases phase <;> first | rfl | cases h

/-- With room, one outcome closes a claimed or running claim. -/
theorem closes_in_one {phase : OccurrenceControlStatus} (hsingle : s.SingleClaim)
    (hfound : find_record s id = some r) (hr : r.Claiming) (hclaim : r.val.active_claim = some claim)
    (hphase : r.val.active_claim_phase = some phase) (hsteps : phase.closing_steps = some 1)
    (hroom : r.val.terminal_history.length < 128) (hrevision : s.val.revision < 2 ^ 63 - 1) :
    ∃ later s', automation_system.run s later = .ok s' ∧ s'.unclaimed := by
  have hcloses := some_outcome_closes hsteps
  obtain ⟨action, s', hm, h⟩ := outcome_accepted hfound hr hclaim hphase hcloses hroom hrevision
  exact ⟨[action], s', System.run_cons.mpr ⟨s', h, System.run_nil.mpr rfl⟩,
    unclaimed_of_closed hsingle hfound hclaim hm (safe_of_closes hcloses) h⟩

/-- **When a claim can be closed**: in every snapshot reachable from an empty
    store the claim is the only one, some run of mutations closes it exactly
    when its phase takes an outcome and there is room for it, and each outcome
    the phase takes is accepted exactly when there is room. -/
theorem claim_closable_iff (hempty : s₀.val.is_empty)
    (hrun : automation_system.run s₀ actions = .ok s) (hmem : r ∈ s.val.records)
    (hclaim : r.val.active_claim = some claim) :
    (∀ q ∈ s.val.records, q.val.active_claim ≠ none → q = r) ∧
    ((∃ later s', automation_system.run s later = .ok s' ∧ s'.unclaimed) ↔ ClosingRoom s r) ∧
    ∀ phase outcome, r.val.active_claim_phase = some phase → closes_phase phase outcome = true →
      ((∃ (action : AutomationMutationV1) (s' : AutomationSnapshotV1)
          (summary : OccurrenceSummaryV1), action.val.mutation = .record_occurrence_outcome
            r.automation_id claim.val.authority_digest summary ∧ summary.val.status = outcome ∧
          handle s action = .ok s') ↔
        r.val.terminal_history.length < 128 ∧ s.val.revision < 2 ^ 63 - 1) := by
  have hfound := find_record_of_mem hmem
  have hr := reachable_claiming hempty hrun hfound
  have hsingle := reachable_single_claim hempty hrun
  have hopen : r.val.active_claim ≠ none := by simp [hclaim]
  refine ⟨?_, ⟨?_, ?_⟩, ?_⟩
  · intro q hq hqc
    have hid := hsingle _ _ q r (find_record_of_mem hq) hfound hqc hopen
    have hfound' := find_record_of_mem hq
    rw [hid] at hfound'
    exact Option.some.inj (hfound'.symm.trans hfound)
  · rintro ⟨later, s', hlater, hfree⟩
    have hnotparked : ¬ r.is_parked := fun h => parked_forever hfound h hlater hfree
    have hrevision := run_revision hlater
    have hbound := s'.checks.revision.2
    have hroom : r.val.terminal_history.length < 128 := by
      by_contra hfull
      exact hnotparked ⟨hopen, .inl (not_lt.mp hfull)⟩
    obtain ⟨phase, hphase⟩ : ∃ phase, r.val.active_claim_phase = some phase := by
      have := r.checks.claim
      simp only [AutomationRecordFields.check_claim, hclaim, bind_eq_ok,
        Py.expect_value_eq_ok] at this
      obtain ⟨phase, hphase, _⟩ := this
      exact ⟨phase, hphase⟩
    obtain ⟨n, hn⟩ : ∃ n, phase.closing_steps = some n := by
      cases hsteps : phase.closing_steps with
      | some n => exact ⟨n, rfl⟩
      | none => exact absurd ⟨hopen, .inr ⟨phase, hphase, hsteps⟩⟩ hnotparked
    refine ⟨phase, n, hphase, hn, hroom, ?_⟩
    -- a run that closes the claim has at least as many steps as the phase needs
    have hsteps : n ≤ later.length := by
      match later, hlater with
      | [], hlater =>
        obtain rfl := System.run_nil.mp hlater
        exact absurd (hfree r hmem) hopen
      | [action], hlater =>
        obtain ⟨t, ht, hrest⟩ := System.run_cons.mp hlater
        obtain rfl := System.run_nil.mp hrest
        obtain ⟨q, hq, hone⟩ := closing_phase ht hfound hopen hfree
        obtain rfl := Option.some.inj (hphase.symm.trans hq)
        obtain rfl : n = 1 := Option.some.inj (hn.symm.trans hone)
        exact le_refl _
      | _ :: _ :: rest, _ =>
        have : n ≤ 2 := by
          revert hn
          cases phase <;> intro h <;> cases h <;> decide
        simp only [List.length_cons]
        omega
    omega
  · rintro ⟨phase, n, hphase, hn, hroom, hrevision⟩
    by_cases hone : phase.closing_steps = some 1
    · obtain rfl : n = 1 := Option.some.inj (hn.symm.trans hone)
      exact closes_in_one hsingle hfound hr hclaim hphase hone hroom (by omega)
    · -- a dispatched occurrence is started first
      have htwo : phase = .dispatched ∧ n = 2 := by
        revert hn hone
        cases phase <;> simp [OccurrenceControlStatus.closing_steps]
        omega
      obtain ⟨rfl, rfl⟩ := htwo
      obtain ⟨action, t, q, ht, hq, hqclaim, hqphase, hqhistory⟩ :=
        running_accepted hfound hr hclaim hphase (by omega)
      have hrun' : automation_system.run s₀ (actions ++ [action]) = .ok t :=
        System.run_append.mpr ⟨s, hrun, System.run_cons.mpr ⟨t, ht, System.run_nil.mpr rfl⟩⟩
      have hgrown := (handle_change ht).revision
      obtain ⟨later, s', hlater, hfree⟩ := closes_in_one (reachable_single_claim hempty hrun') hq
        (reachable_claiming hempty hrun' hq) hqclaim hqphase rfl (by rw [hqhistory]; exact hroom)
        (by omega)
      exact ⟨action :: later, s', System.run_cons.mpr ⟨t, ht, hlater⟩, hfree⟩
  · intro phase outcome hphase hcloses
    constructor
    · rintro ⟨action, s', summary, hm, rfl, h⟩
      have hreduced := handle_change h
      have hgrown := hreduced.revision
      have hbound := s'.checks.revision.2
      have hchange := hreduced.change
      rw [hm] at hchange
      refine ⟨?_, by omega⟩
      cases hchange with
      | change _ q r' hq _ hrecord _ _ =>
        obtain rfl := Option.some.inj (hfound.symm.trans hq)
        cases hrecord with
        | unresolve _ _ _ _ _ _ _ hunresolved _ =>
          rw [safe_of_closes hcloses] at hunresolved
          cases hunresolved
        | close _ _ _ _ _ _ _ _ _ _ hroom _ => exact hroom
    · rintro ⟨hroom, hrevision⟩
      obtain ⟨action, s', hm, h⟩ :=
        outcome_accepted hfound hr hclaim hphase hcloses hroom hrevision
      exact ⟨action, s', outcome_summary claim outcome, hm, rfl, h⟩

end Runs

/-! ### A claim that can be closed, and one that is parked -/

section Fixed

/-- The first occurrence stops for a human. -/
def parking_step : AutomationMutationV1 :=
  numbered 5 (.record_occurrence_outcome "hourly" first_claim.val.authority_digest
    (first_summary .needs_human))

theorem running_claim_closes : ∃ later s',
    automation_system.run running_snapshot later = .ok s' ∧ s'.unclaimed :=
  (claim_closable_iff ⟨rfl, rfl⟩ running_steps_run (List.mem_singleton.mpr rfl) rfl).2.1.mpr
    ⟨.running, 1, rfl, rfl, by decide, by decide⟩

/-- A claim parked for a human is closed by no run of mutations. -/
theorem parked_claim_stays : ∃ s r,
    automation_system.run empty_snapshot (running_steps ++ [parking_step]) = .ok s ∧
    find_record s "hourly" = some r ∧ r.val.active_claim = some first_claim ∧
    ∀ later s', automation_system.run s later = .ok s' → ¬ s'.unclaimed := by
  have hruns : succeeds (automation_system.run running_snapshot [parking_step]) (fun s =>
      (find_record s "hourly").any fun r => r.val.active_claim = some first_claim &&
        r.val.active_claim_phase = some .needs_human) = true := by
    decide +kernel
  obtain ⟨s, hs, h⟩ := succeeds_iff.mp hruns
  obtain ⟨r, hr, h⟩ := (Option.any_eq_true _ _).mp h
  simp only [Bool.and_eq_true, decide_eq_true_eq] at h
  obtain ⟨hclaim, hphase⟩ := h
  refine ⟨s, r, System.run_append.mpr ⟨_, running_steps_run, hs⟩, hr, hclaim,
    fun later s' hlater => ?_⟩
  exact parked_forever hr ⟨by simp [hclaim], .inr ⟨.needs_human, hphase, rfl⟩⟩ hlater

end Fixed
