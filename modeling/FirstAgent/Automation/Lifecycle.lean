import FirstAgent.Automation.RecordChange

/-! # Cancellation

    A cancelled automation runs no further occurrence: it closes the claim it
    still has, gives up its objects and leaves a tombstone.  Approving a draft
    that survived the cancellation, an outcome that needs a human, and a new
    proposal under the id of a forgotten tombstone bring it back. -/

open Fallible

/-! ### The stages -/

/-- Where a cancelled automation stands. -/
inductive CancelStage where
  /-- its last claim is still open -/
  | cancel_pending
  | canceled
  /-- its objects are being removed -/
  | purge_pending
  /-- the snapshot has no record of it -/
  | purged
  deriving Repr, DecidableEq

def CancelStage.next : CancelStage → Option CancelStage
  | .cancel_pending => some .canceled
  | .canceled       => some .purge_pending
  | .purge_pending  => some .purged
  | .purged         => none

/-- The stage of a record, if it is cancelled. -/
def AutomationRecordV1.cancel_stage (r : AutomationRecordV1) : Option CancelStage :=
  match r.val.status with
  | .cancel_pending => some .cancel_pending
  | .canceled       => if r.val.active_claim.isNone then some .canceled else none
  | .purge_pending  => some .purge_pending
  | _               => none

/-- The stage of an automation in a snapshot. -/
def AutomationSnapshotV1.cancel_stage (s : AutomationSnapshotV1) (id : String) :
    Option CancelStage :=
  match find_record s id with
  | some r => r.cancel_stage
  | none   => some .purged

/-- The mutations that bring a cancelled automation back: an approval of a
    surviving draft, an outcome that pauses it, a proposal under its id. -/
def AutomationMutation.revives : AutomationMutation → Option AutomationRecordV1 → Bool
  | .approve_revision _ _ _, some r => r.val.status = .canceled
  | .record_occurrence_outcome _ _ summary, some r =>
    summary.val.status.is_unresolved && r.val.status = .cancel_pending
  | .create_proposal _, none => true
  | _, _ => false

/-- The mutation does not bring the cancelled automation back. -/
def KeepsCanceled (id : String) (s : AutomationSnapshotV1) (action : AutomationMutationV1) : Prop :=
  action.val.mutation.automation_id = id → action.val.mutation.revives (find_record s id) = false

instance (id : String) (s : AutomationSnapshotV1) (action : AutomationMutationV1) :
    Decidable (KeepsCanceled id s action) := by
  unfold KeepsCanceled
  infer_instance

/-! ### One change -/

section Stages

variable {s s' t : AutomationSnapshotV1} {r r' : AutomationRecordV1} {m : AutomationMutation}
  {id : String} {stage : CancelStage} {action : AutomationMutationV1}

theorem cancel_stage_of_found (hr : find_record s id = some r) :
    s.cancel_stage id = r.cancel_stage := by
  simp [AutomationSnapshotV1.cancel_stage, hr]

/-- A cancelled record is not active, not paused and not a proposal. -/
theorem status_of_cancel_stage (h : r.cancel_stage = some stage) :
    r.val.status = .cancel_pending ∨ r.val.status = .canceled ∧ r.val.active_claim = none ∨
      r.val.status = .purge_pending := by
  unfold AutomationRecordV1.cancel_stage at h
  split at h
  · exact .inl ‹_›
  · split at h
    · exact .inr (.inl ⟨‹_›, Option.isNone_iff_eq_none.mp ‹_›⟩)
    · cases h
  · exact .inr (.inr ‹_›)
  · cases h

/-- A purging record holds no claim and no draft. -/
theorem purging_empty (h : r.val.status = .purge_pending) :
    r.val.active_claim = none ∧ r.val.draft_body = none := by
  have hstatus := r.checks.status
  simp only [AutomationRecordFields.check_status, h, Py.refuse_value_eq_ok, not_or] at hstatus
  obtain ⟨_, hdraft, _, hclaim, _⟩ := hstatus
  exact ⟨by simpa using hclaim, by simpa using hdraft⟩

theorem claim_of_cancel_stage (h : r.cancel_stage = some stage)
    (hclaim : r.val.active_claim ≠ none) : r.val.status = .cancel_pending := by
  rcases status_of_cancel_stage h with hpending | ⟨_, hidle⟩ | hpurging
  · exact hpending
  · exact absurd hidle hclaim
  · exact absurd (purging_empty hpurging).1 hclaim

/-- A record that stands at a stage stays there or moves to the next one. -/
theorem RecordChange.cancel_stage (h : RecordChange s r r' m) (hkeeps : m.revives (some r) = false)
    (hstage : r.cancel_stage = some stage) :
    r'.cancel_stage = some stage ∨ ∃ next, stage.next = some next ∧
      r'.cancel_stage = some next := by
  -- a change that leaves status and claim leaves the stage
  have same (h1 : r'.val.status = r.val.status) (h2 : r'.val.active_claim = r.val.active_claim) :
      r'.cancel_stage = some stage := by
    rw [← hstage, AutomationRecordV1.cancel_stage, AutomationRecordV1.cancel_stage, h1, h2]
  have hstatus := status_of_cancel_stage hstage
  cases h with
  | approve _ _ _ _ hdraft _ _ hnew =>
    have hnot : r.val.status ≠ .canceled := by simpa [AutomationMutation.revives] using hkeeps
    -- only a record whose claim is open still has a draft to approve
    have hpending : r.val.status = .cancel_pending := by
      rcases hstatus with hpending | ⟨hcanceled, _⟩ | hpurging
      · exact hpending
      · exact absurd hcanceled hnot
      · rw [(purging_empty hpurging).2] at hdraft
        cases hdraft
    left
    exact same (by rw [hnew, hpending]; rfl) (by rw [hnew])
  | stage _ _ _ _ hnew => exact .inl (same (by rw [hnew]) (by rw [hnew]))
  | pause _ hpausable _ => rcases hpausable with h | h <;> simp [h] at hstatus
  | resume _ hpaused _ _ _ => simp [hpaused] at hstatus
  | cancel _ hcancel hnew =>
    have hpending : r.val.status = .cancel_pending := by
      rcases hstatus with hpending | ⟨hcanceled, _⟩ | hpurging
      · exact hpending
      · exact absurd hcanceled hcancel.1
      · exact absurd hpurging hcancel.2
    obtain rfl : stage = .cancel_pending := by
      simpa [AutomationRecordV1.cancel_stage, hpending] using hstage.symm
    cases hclaim : r.val.active_claim with
    | some claim =>
      left
      simp [AutomationRecordV1.cancel_stage, hnew, canceled_status, hclaim]
    | none =>
      right
      exact ⟨.canceled, rfl,
        by simp [AutomationRecordV1.cancel_stage, hnew, canceled_status, hclaim]⟩
  | begin_purge _ _ _ hcanceled hidle hnew =>
    obtain rfl : stage = .canceled := by
      simpa [AutomationRecordV1.cancel_stage, hcanceled, hidle] using hstage.symm
    right
    exact ⟨.purge_pending, rfl, by simp [AutomationRecordV1.cancel_stage, hnew]⟩
  | start_object _ _ _ _ _ _ _ _ hnew => exact .inl (same (by rw [hnew]) (by rw [hnew]))
  | restart_object _ _ _ _ _ hnew => exact .inl (hnew ▸ hstage)
  | object_unknown _ _ _ _ hnew => exact .inl (same (by rw [hnew]) (by rw [hnew]))
  | object_confirmed _ _ _ _ _ _ _ _ hnew => exact .inl (same (by rw [hnew]) (by rw [hnew]))
  | claim _ _ hactive _ _ _ _ _ _ _ => simp [hactive] at hstatus
  | dispatch _ _ _ _ _ _ _ hnew => exact .inl (same (by rw [hnew]) (by rw [hnew]))
  | run _ _ _ _ _ _ _ hnew => exact .inl (same (by rw [hnew]) (by rw [hnew]))
  | unresolve _ _ _ _ hclaim _ _ hunresolved _ =>
    have hpending := claim_of_cancel_stage hstage (by simp [hclaim])
    simp [AutomationMutation.revives, hunresolved, hpending] at hkeeps
  | close _ _ _ _ _ hclaim _ _ _ _ _ hnew =>
    -- the last claim is closed
    have hpending := claim_of_cancel_stage hstage (by simp [hclaim])
    obtain rfl : stage = .cancel_pending := by
      simpa [AutomationRecordV1.cancel_stage, hpending] using hstage.symm
    right
    exact ⟨.canceled, rfl,
      by simp [AutomationRecordV1.cancel_stage, hnew, closed_status, hpending]⟩

/-- One accepted mutation keeps the stage or moves to the next one, and does
    not claim an occurrence. -/
theorem cancel_stage_step (h : handle s action = .ok s') (hkeeps : KeepsCanceled id s action)
    (hstage : s.cancel_stage id = some stage) :
    s'.cancel_stage id = some stage ∨ ∃ next, stage.next = some next ∧
      s'.cancel_stage id = some next := by
  have kept (hfound : find_record s' id = find_record s id) : s'.cancel_stage id = some stage := by
    rw [← hstage, AutomationSnapshotV1.cancel_stage, AutomationSnapshotV1.cancel_stage, hfound]
  have hchange := (handle_change h).change
  generalize hm : action.val.mutation = m at hchange
  rw [KeepsCanceled, hm] at hkeeps
  cases hchange with
  | create body r' hfresh _ _ _ hfound =>
    by_cases heq : id = body.val.automation_id
    · subst heq
      have hrevives := hkeeps rfl
      rw [hfresh] at hrevives
      cases hrevives
    · exact .inl (kept (by rw [hfound, if_neg heq]))
  | change _ r r' hr hid hrecord _ hfound =>
    by_cases heq : id = m.automation_id
    · subst heq
      have hrevives := hkeeps rfl
      rw [hr] at hrevives
      rw [cancel_stage_of_found hr] at hstage
      rw [cancel_stage_of_found (r := r') (by rw [hfound, if_pos rfl])]
      exact hrecord.cancel_stage hrevives hstage
    · exact .inl (kept (by rw [hfound, if_neg heq]))
  | finish i _ r _ t hr hpurging _ _ _ _ ht htombs hfound =>
    by_cases heq : id = i
    · subst heq
      obtain rfl : stage = .purge_pending := by
        simpa [cancel_stage_of_found hr, AutomationRecordV1.cancel_stage, hpurging] using
          hstage.symm
      right
      exact ⟨.purged, rfl, by simp [AutomationSnapshotV1.cancel_stage, hfound]⟩
    · exact .inl (kept (by rw [hfound, if_neg heq]))

end Stages

/-! ### Runs -/

section Runs

variable {s₀ s s' t : AutomationSnapshotV1} {id : String} {cancel action : AutomationMutationV1}
  {later : List AutomationMutationV1}

/-- A mutation keeps the stage of a cancelled automation or moves it to the
    next one; the record that goes leaves a tombstone. -/
def CancelMoves (id : String) (s s' : AutomationSnapshotV1) : Prop :=
  ∃ stage, s.cancel_stage id = some stage ∧
    (s'.cancel_stage id = some stage ∨ ∃ next, stage.next = some next ∧
      s'.cancel_stage id = some next ∧
      (next = .purged → ∃ tombstone : AutomationTombstoneV1, tombstone.val.automation_id = id ∧
        s'.val.tombstones = KeyedStore.sort AutomationTombstoneV1.automation_id
          (keep_tombstones (s.val.tombstones ++ [tombstone]))))

/-- A record goes by the end of its purge only. -/
theorem purged_leaves_tombstone (h : handle s action = .ok s') {r : AutomationRecordV1}
    (hr : find_record s id = some r) (hgone : find_record s' id = none) :
    ∃ tombstone : AutomationTombstoneV1, tombstone.val.automation_id = id ∧
      s'.val.tombstones = KeyedStore.sort AutomationTombstoneV1.automation_id
        (keep_tombstones (s.val.tombstones ++ [tombstone])) := by
  have hchange := (handle_change h).change
  generalize action.val.mutation = m at hchange
  cases hchange with
  | create body r' _ _ _ _ hfound =>
    rw [hfound] at hgone
    split at hgone
    · cases hgone
    · rw [hr] at hgone
      cases hgone
  | change _ q r' _ _ _ _ hfound =>
    rw [hfound] at hgone
    split at hgone
    · cases hgone
    · rw [hr] at hgone
      cases hgone
  | finish i _ q _ tombstone _ _ _ _ _ _ ht htombs hfound =>
    rw [hfound] at hgone
    split at hgone
    · subst_vars
      exact ⟨tombstone, rfl, htombs⟩
    · rw [hr] at hgone
      cases hgone

/-- An accepted cancellation puts the automation into one of the first two
    stages. -/
theorem canceled_stage (hcancel : cancel.val.mutation = .cancel_automation id)
    (h : handle s₀ cancel = .ok s) :
    s.cancel_stage id = some .cancel_pending ∨ s.cancel_stage id = some .canceled := by
  have hchange := (handle_change h).change
  rw [hcancel] at hchange
  cases hchange with
  | change _ r r' hr hid hrecord _ hfound =>
    cases hrecord with
    | cancel _ _ hnew =>
      rw [cancel_stage_of_found (r := r') (by rw [hfound]; exact if_pos rfl)]
      cases hclaim : r.val.active_claim with
      | some claim =>
        left
        simp [AutomationRecordV1.cancel_stage, hnew, canceled_status, hclaim]
      | none =>
        right
        simp [AutomationRecordV1.cancel_stage, hnew, canceled_status, hclaim]

/-- A cancelled automation claims no occurrence. -/
theorem canceled_claims_nothing (h : handle s action = .ok s') {stage : CancelStage}
    (hstage : s.cancel_stage id = some stage) {authority : BackgroundOccurrenceAuthorityV1}
    (hclaim : action.val.mutation = .claim_occurrence authority) :
    authority.val.automation_id ≠ id := by
  intro hid
  have hchange := (handle_change h).change
  rw [hclaim] at hchange
  cases hchange with
  | change _ r r' hr _ hrecord _ _ =>
    cases hrecord with
    | claim _ _ hactive _ _ _ _ _ _ _ =>
      have hr : find_record s id = some r := hid ▸ hr
      rw [cancel_stage_of_found hr] at hstage
      simpa [hactive] using status_of_cancel_stage hstage

theorem cancel_moves (h : handle s action = .ok s') (hkeeps : KeepsCanceled id s action)
    {stage : CancelStage} (hstage : s.cancel_stage id = some stage) : CancelMoves id s s' := by
  refine ⟨stage, hstage, ?_⟩
  rcases cancel_stage_step h hkeeps hstage with hsame | ⟨next, hnext, hmoved⟩
  · exact .inl hsame
  · refine .inr ⟨next, hnext, hmoved, ?_⟩
    rintro rfl
    cases hr : find_record s id with
    | none =>
      -- nothing follows the last stage
      obtain rfl : stage = .purged := by
        simpa [AutomationSnapshotV1.cancel_stage, hr] using hstage.symm
      cases hnext
    | some r =>
      refine purged_leaves_tombstone h hr ?_
      cases hr' : find_record s' id with
      | none => rfl
      | some r' =>
        rw [cancel_stage_of_found hr'] at hmoved
        unfold AutomationRecordV1.cancel_stage at hmoved
        split at hmoved <;> (try split at hmoved) <;> cases hmoved

/-- **Cancellation is final**: in every run of mutations none of which brings
    the automation back, a cancelled automation is never active or paused
    again, claims no occurrence, and moves through its stages to a tombstone. -/
theorem cancellation_final (hcancel : cancel.val.mutation = .cancel_automation id)
    (hstep : handle s₀ cancel = .ok s)
    (hlater : automation_system.Along (KeepsCanceled id) s later)
    (hrun : automation_system.run s later = .ok t) :
    (s.cancel_stage id = some .cancel_pending ∨ s.cancel_stage id = some .canceled) ∧
    (∀ r, find_record t id = some r → r.val.status = .cancel_pending ∨
      r.val.status = .canceled ∨ r.val.status = .purge_pending) ∧
    ∀ action t', KeepsCanceled id t action → handle t action = .ok t' →
      (∀ authority, action.val.mutation = .claim_occurrence authority →
        authority.val.automation_id ≠ id) ∧ CancelMoves id t t' := by
  have hstart := canceled_stage hcancel hstep
  have hstage : ∃ stage, t.cancel_stage id = some stage := by
    refine System.run_invariant_along (I := fun u => ∃ stage, u.cancel_stage id = some stage)
      ?_ ?_ hlater hrun
    · rintro u action u' ⟨stage, hstage⟩ hkeeps h
      rcases cancel_stage_step h hkeeps hstage with hsame | ⟨next, _, hmoved⟩
      · exact ⟨stage, hsame⟩
      · exact ⟨next, hmoved⟩
    · rcases hstart with h | h
      · exact ⟨_, h⟩
      · exact ⟨_, h⟩
  obtain ⟨stage, hstage⟩ := hstage
  refine ⟨hstart, ?_, ?_⟩
  · intro r hr
    rw [cancel_stage_of_found hr] at hstage
    rcases status_of_cancel_stage hstage with h | ⟨h, _⟩ | h
    · exact .inl h
    · exact .inr (.inl h)
    · exact .inr (.inr h)
  · intro action t' hkeeps h
    exact ⟨fun authority => canceled_claims_nothing h hstage, cancel_moves h hkeeps hstage⟩

end Runs

/-! ### A cancellation that lasts, and one that an approval undoes -/

section Fixed

def preview_digest : String := "59b774a5253e2bc8e357bdfc95e4f7a4b214734f6da65a9f53b40711a10ba16b"

theorem numbered_create : AutomationMutationFields.post_init
    ⟨numbered_token 0, numbered_token 1, .create_proposal hourly_body⟩ = .ok () := by
  decide +kernel

theorem numbered_approve : AutomationMutationFields.post_init
    ⟨numbered_token 1, numbered_token 2,
      .approve_revision "hourly" hourly_definition preview_digest⟩ = .ok () := by
  decide +kernel

/-- The hourly automation is proposed, approved and given a new draft. -/
def staged_steps : List AutomationMutationV1 := [
  numbered 0 (.create_proposal hourly_body) numbered_create,
  numbered 1 (.approve_revision "hourly" hourly_definition preview_digest) numbered_approve,
  numbered 2 (.stage_revision "hourly" revised_body)]

def cancel_step : AutomationMutationV1 := numbered 3 (.cancel_automation "hourly")

def purge_steps : List AutomationMutationV1 := [
  numbered 4 (.begin_purge "hourly" hourly_manifest hourly_manifest.val.manifest_digest),
  numbered 5 (.start_purge_object "hourly" "workspace-1")]

theorem purged_after_cancellation : ∃ s₀ s t,
    automation_system.run empty_snapshot staged_steps = .ok s₀ ∧
    handle s₀ cancel_step = .ok s ∧
    automation_system.run s purge_steps = .ok t ∧
    ∀ r, find_record t "hourly" = some r → r.val.status = .cancel_pending ∨
      r.val.status = .canceled ∨ r.val.status = .purge_pending := by
  have hruns : succeeds (automation_system.run empty_snapshot staged_steps) (fun s₀ =>
      succeeds (handle s₀ cancel_step) fun s =>
        automation_system.check_along (fun s l => KeepsCanceled "hourly" s l) s purge_steps &&
        succeeds (automation_system.run s purge_steps) fun _ => true) = true := by
    decide +kernel
  obtain ⟨s₀, hs₀, h⟩ := succeeds_iff.mp hruns
  obtain ⟨s, hs, h⟩ := succeeds_iff.mp h
  obtain ⟨halong, h⟩ := (Bool.and_eq_true _ _).mp h
  obtain ⟨t, ht, _⟩ := succeeds_iff.mp h
  exact ⟨s₀, s, t, hs₀, hs, ht,
    (cancellation_final rfl hs (System.along_of_check halong) ht).2.1⟩

/-- A draft staged before the cancellation can still be approved: the cancelled
    automation is active again. -/
theorem approval_revives_canceled : ∃ s₀ s t r,
    automation_system.run empty_snapshot staged_steps = .ok s₀ ∧
    handle s₀ cancel_step = .ok s ∧
    handle s (numbered 4 (.approve_revision "hourly" revised_definition preview_digest)) = .ok t ∧
    find_record t "hourly" = some r ∧ r.val.status = .active := by
  have hruns : succeeds (automation_system.run empty_snapshot staged_steps) (fun s₀ =>
      succeeds (handle s₀ cancel_step) fun s =>
        succeeds (handle s
            (numbered 4 (.approve_revision "hourly" revised_definition preview_digest))) fun t =>
          (find_record t "hourly").any fun r => r.val.status = .active) = true := by
    decide +kernel
  obtain ⟨s₀, hs₀, h⟩ := succeeds_iff.mp hruns
  obtain ⟨s, hs, h⟩ := succeeds_iff.mp h
  obtain ⟨t, ht, h⟩ := succeeds_iff.mp h
  obtain ⟨r, hr, hactive⟩ := (Option.any_eq_true _ _).mp h
  exact ⟨s₀, s, t, r, hs₀, hs, ht, hr, of_decide_eq_true hactive⟩

end Fixed
