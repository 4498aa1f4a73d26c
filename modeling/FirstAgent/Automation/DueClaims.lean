import FirstAgent.Automation.Schedule

/-! # Claims of Due Occurrences

    The reconciler claims the occurrence its schedule decides for.  The
    controller takes the claim when the decision is for the cursor's index, the
    deadline can be written, and the store has a revision left. -/

open Fallible Controlled

/-! ### The authority -/

/-- What the reconciler draws for a claim. -/
structure ClaimTokens where
  claim_fencing_token : String
  checkpoint_identity : String
  raw_capability : String
  deriving Repr, DecidableEq

/-- The identity of an occurrence that is not executed. -/
def inert_identity (occurrence_id : String) : String :=
  canonical_json_digest <| .dict <| JsonDict.of [
    ("occurrence_id", .str occurrence_id),
    ("kind", .str "nonexecuting_schedule_outcome")]

/-- `_authority`. -/
def reconcile_authority (tokens : ClaimTokens) (record : AutomationRecordV1)
    (occurrence_index : Int) (scheduled_for_utc : String) (execution_capability : Bool) :
    Controlled BackgroundOccurrenceAuthorityV1 := do
  let definition ← asserted record.val.definition
  let scheduled ← construct <| parse_canonical_utc scheduled_for_utc "scheduled_for_utc"
  let occurrence_id ← construct <|
    occurrence_identity definition occurrence_index scheduled_for_utc
  let deadline_utc ← construct <| occurrence_deadline definition scheduled
  construct <| BackgroundOccurrenceAuthorityV1.create {
    automation_id := record.automation_id
    automation_revision := definition.val.body.val.revision
    occurrence_id := occurrence_id
    occurrence_index := occurrence_index
    scheduled_for_utc := scheduled_for_utc
    definition_digest := definition.val.definition_digest
    grant_digest := definition.val.grant.val.grant_digest
    claim_fencing_token := tokens.claim_fencing_token
    checkpoint_identity :=
      if execution_capability then tokens.checkpoint_identity else inert_identity occurrence_id
    deadline_utc := deadline_utc
    raw_capability :=
      if execution_capability then tokens.raw_capability else inert_identity occurrence_id }

/-- The tokens an authority takes. -/
structure ClaimTokens.Valid (tokens : ClaimTokens) : Prop where
  fencing : PyText.is_opaque_id tokens.claim_fencing_token = true
  checkpoint : PyText.is_lower_hex tokens.checkpoint_identity 64 = true
  capability : 32 ≤ tokens.raw_capability.toList.length

section Authority

variable {s s' : AutomationSnapshotV1} {r : AutomationRecordV1} {d : AutomationDefinitionV1}
  {tokens : ClaimTokens} {slot : UtcTime} {k : Int} {executes : Bool}
  {authority : BackgroundOccurrenceAuthorityV1} {token : String}

/-- A digest is an opaque id. -/
theorem hex_opaque {s : String} (h : PyText.is_lower_hex s 64 = true) :
    PyText.is_opaque_id s = true := by
  simp only [PyText.is_lower_hex, Bool.and_eq_true, beq_iff_eq, List.all_eq_true] at h
  obtain ⟨hlength, hhex⟩ := h
  have halnum : "0123456789abcdef".toList.all Char.isAlphanum = true := by decide
  simp only [PyText.is_opaque_id, hlength, Bool.and_eq_true, List.all_eq_true, Bool.or_eq_true]
  refine ⟨by decide, fun c hc => ?_⟩
  have hmem : c ∈ "0123456789abcdef".toList := by simpa using hhex c hc
  exact .inl (.inl (.inl (.inl (List.all_eq_true.mp halnum c hmem))))

theorem definition_digests (d : AutomationDefinitionV1) :
    PyText.is_lower_hex d.val.definition_digest 64 = true ∧
      PyText.is_lower_hex d.val.grant.val.grant_digest 64 = true := by
  have hdefinition := d.valid
  have hgrant := d.val.grant.valid
  simp only [AutomationDefinitionFields.post_init, bind_eq_ok, Py.refuse_value_eq_ok,
    not_not] at hdefinition
  simp only [BackgroundAuthorityGrantFields.post_init, bind_eq_ok, Py.refuse_value_eq_ok,
    not_not] at hgrant
  obtain ⟨_, _, hdefinition⟩ := hdefinition
  obtain ⟨_, _, _, _, hgrant⟩ := hgrant
  rw [hdefinition, hgrant]
  exact ⟨is_lower_hex_canonical_json_digest _, is_lower_hex_canonical_json_digest _⟩

/-- Deadlines lie after their slots. -/
theorem deadline_pos (d : AutomationDefinitionV1) :
    0 ≤ d.val.body.val.budgets.val.occurrence_deadline_seconds := by
  have hbudgets := d.val.body.val.budgets.valid
  simp only [AutomationBudgetsFields.post_init, Py.require_positive_int, bind_eq_ok,
    Py.refuse_value_eq_ok, not_or, not_lt, exists_const] at hbudgets
  have := hbudgets.1
  omega

/-- What an authority repeats of its definition, and when it can be made. -/
structure AuthorityFor (r : AutomationRecordV1) (d : AutomationDefinitionV1) (k : Int)
    (slot : UtcTime) (authority : BackgroundOccurrenceAuthorityV1) : Prop where
  automation : authority.val.automation_id = r.automation_id
  revision : authority.val.automation_revision = d.val.body.val.revision
  index : authority.val.occurrence_index = k
  scheduled : authority.val.scheduled_for_utc = format_canonical_utc slot
  definition : authority.val.definition_digest = d.val.definition_digest
  grant : authority.val.grant_digest = d.val.grant.val.grant_digest
  identity : occurrence_identity d k (format_canonical_utc slot) = .ok authority.val.occurrence_id
  deadline : occurrence_deadline d slot = .ok authority.val.deadline_utc

theorem reconcile_authority_ok (hd : r.val.definition = some d) (hyear : 31525372800 ≤ slot.seconds)
    (h : reconcile_authority tokens r k (format_canonical_utc slot) executes = .ok authority) :
    AuthorityFor r d k slot authority := by
  have hslot : UtcTime.parse (format_canonical_utc slot) = some slot := UtcTime.parse_format hyear
  simp only [reconcile_authority, bind_eq_ok, asserted_eq_ok, construct_eq_ok, parse_canonical_utc,
    Py.expect_value_eq_ok, hd, hslot, Option.some.injEq, exists_eq_left',
    BackgroundOccurrenceAuthorityV1.create, Checked.make_eq_ok] at h
  obtain ⟨occurrence_id, hidentity, deadline_utc, hdeadline, h⟩ := h
  exact ⟨by rw [h], by rw [h], by rw [h], by rw [h], by rw [h], by rw [h], by rw [h]; exact hidentity,
    by rw [h]; exact hdeadline⟩

/-- The authority can be made when its deadline can be written. -/
theorem authority_created (executes : Bool) (hd : r.val.definition = some d) (hyear : 31525372800 ≤ slot.seconds)
    (hlow : 0 ≤ k) (hhigh : k < d.val.body.val.max_occurrences) (htokens : tokens.Valid)
    (hroom : slot.seconds + d.val.body.val.budgets.val.occurrence_deadline_seconds < 315537897600) :
    ∃ authority,
      reconcile_authority tokens r k (format_canonical_utc slot) executes = .ok authority := by
  have hslot : UtcTime.parse (format_canonical_utc slot) = some slot := UtcTime.parse_format hyear
  have hpos := deadline_pos d
  obtain ⟨hid_ok, hrevision, hmax, _⟩ := body_checks d.val.body
  obtain ⟨hdefinition, hgrant⟩ := definition_digests d
  obtain ⟨deadline, hdeadline⟩ : ∃ deadline, slot.add
      d.val.body.val.budgets.val.occurrence_deadline_seconds.toNat = .ok deadline :=
    ⟨⟨_, by omega⟩, UtcTime.add_eq_ok.mpr rfl⟩
  have hlate : 31525372800 ≤ deadline.seconds := by
    have := UtcTime.add_eq_ok.mp hdeadline
    omega
  have hidentity : ∃ id, occurrence_identity d k (format_canonical_utc slot) = .ok id ∧
      PyText.is_lower_hex id 64 = true := by
    simp only [occurrence_identity, bind_eq_ok, Py.refuse_value_eq_ok, parse_canonical_utc,
      Py.expect_value_eq_ok, hslot, Option.some.injEq, exists_eq_left', pure_eq_ok, exists_const]
    exact ⟨_, ⟨by omega, rfl⟩, is_lower_hex_canonical_json_digest _⟩
  obtain ⟨occurrence_id, hoccurrence, hhex⟩ := hidentity
  have hinert : PyText.is_lower_hex (inert_identity occurrence_id) 64 = true :=
    is_lower_hex_canonical_json_digest _
  have hinert_length : 32 ≤ (inert_identity occurrence_id).toList.length := by
    simp only [PyText.is_lower_hex, Bool.and_eq_true, beq_iff_eq] at hinert
    omega
  simp only [reconcile_authority, bind_eq_ok, asserted_eq_ok, construct_eq_ok, parse_canonical_utc,
    Py.expect_value_eq_ok, hd, hslot, Option.some.injEq, exists_eq_left', hoccurrence,
    Except.ok.injEq, occurrence_deadline, hdeadline, pure_eq_ok,
    BackgroundOccurrenceAuthorityV1.create]
  refine ⟨⟨_, ?_⟩, Checked.make_eq_ok.mpr rfl⟩
  simp only [BackgroundOccurrenceAuthorityFields.post_init, Py.require_opaque_id,
    Py.require_positive_int, Py.require_nonnegative_int, Py.require_hex64, bind_eq_ok,
    Py.refuse_value_eq_ok, parse_canonical_utc, Py.expect_value_eq_ok, hslot, exists_const,
    Bool.not_eq_false, not_or, not_lt, not_not, Option.some.injEq, exists_eq_left']
  refine ⟨?_, hex_opaque hhex, htokens.fencing, hrevision, by omega, hdefinition, hgrant, ?_,
    ⟨deadline, UtcTime.parse_format hlate, ?_, rfl⟩⟩
  · rw [automation_id_of_definition hd]
    exact hid_ok
  · cases executes
    · exact hinert
    · exact htokens.checkpoint
  · cases executes
    · exact hinert_length
    · exact htokens.capability

/-- The controller takes the claim of the cursor's occurrence. -/
theorem claim_sent (hfree : s.unclaimed) (hmem : r ∈ s.val.records)
    (hd : r.val.definition = some d) (hactive : r.val.status = .active)
    (hyear : 31525372800 ≤ slot.seconds) (hauthority : AuthorityFor r d k slot authority)
    (hcursor : k = r.val.next_occurrence_index) (hlength : 16 ≤ token.toList.length)
    (hfresh : token ≠ s.val.snapshot_token) (hrevision : s.val.revision < 2 ^ 63 - 1) :
    ∃ s', send s token (.claim_occurrence authority) = .ok s' := by
  have hslot : UtcTime.parse (format_canonical_utc slot) = some slot := UtcTime.parse_format hyear
  have hfound := find_record_of_mem hmem
  have hidle : r.val.active_claim = none := hfree r hmem
  have hchecks := r.checks
  have hvalid : AutomationRecordFields.post_init { r.val with
      active_claim := some authority
      active_claim_phase := some .claimed
      active_claim_definition := some d
      active_process_identity_digest := .null } = .ok () := by
    refine AutomationRecordFields.post_init_eq_ok.mpr { hchecks with status := ?_, claim := ?_ }
    · have hstatus := hchecks.status
      simp only [AutomationRecordFields.check_status, hactive] at hstatus ⊢
      exact hstatus
    · simp [AutomationRecordFields.check_claim, AutomationRecordFields.claim_matches,
        AutomationRecordFields.check_process, OccurrenceControlStatus.is_live, bind_eq_ok,
        Py.expect_value_eq_ok, Py.refuse_value_eq_ok, hauthority.automation, hauthority.revision,
        hauthority.definition, hauthority.grant, automation_id_of_definition hd]
  have hid : AutomationRecordV1.automation_id ⟨_, hvalid⟩ = r.automation_id :=
    automation_id_of_fields (r := r) rfl rfl rfl
  obtain ⟨s', hs'⟩ := replace_record_accepts (s := s) (r := r) ⟨_, hvalid⟩
    (by rw [hid]; exact hfound) hlength hrevision fun h => h
  refine ⟨s', send_eq_ok.mpr ⟨rfl, hlength, hfresh, ?_⟩⟩
  simp only [reduce, claim_occurrence, bind_eq_ok, require_record_eq_ok, refuse_transition_eq_ok,
    asserted_eq_ok, construct_eq_ok, Checked.make_eq_ok, not_or, not_not, hauthority.automation,
    parse_canonical_utc, Py.expect_value_eq_ok]
  refine ⟨r, hfound, (), hactive, (), ⟨by simp [hidle], ?_⟩, d, hd, (),
    ⟨hauthority.revision, hauthority.definition, hauthority.grant⟩, (),
    hauthority.index.trans hcursor, authority.val.occurrence_id, ?_, (), rfl, slot, ?_,
    authority.val.deadline_utc, hauthority.deadline, (), rfl, ⟨_, hvalid⟩, rfl, hs'⟩
  · simp only [List.any_eq_true, not_exists, not_and]
    intro q hq
    simp [hfree q hq]
  · rw [hauthority.index, hauthority.scheduled]
    exact hauthority.identity
  · rw [hauthority.scheduled]
    exact hslot

end Authority

/-! ### Decisions and claims -/

section Decisions

variable {s : AutomationSnapshotV1} {r : AutomationRecordV1} {d : AutomationDefinitionV1}
  {now : UtcTime} {decision : ScheduleDecisionV1} {tokens : ClaimTokens} {token : String}

/-- The decided occurrence can be claimed: no later slot is due than the
    cursor's, its deadline can be written, and the store has a revision left. -/
structure Claimable (s : AutomationSnapshotV1) (r : AutomationRecordV1) (d : AutomationDefinitionV1)
    (now : UtcTime) : Prop where
  single : SingleSlot d r now
  deadline : slot_seconds d r.val.next_occurrence_index +
    d.val.body.val.budgets.val.occurrence_deadline_seconds < 315537897600
  revision : s.val.revision < 2 ^ 63 - 1

/-- The reconciler's claim of the decided occurrence, under a token. -/
def claim_decided (tokens : ClaimTokens) (token : String) (s : AutomationSnapshotV1)
    (r : AutomationRecordV1) (decision : ScheduleDecisionV1) : Controlled AutomationSnapshotV1 := do
  let occurrence_index ← asserted decision.val.occurrence_index
  let scheduled_for_utc ← asserted decision.val.scheduled_for_utc
  let authority ← reconcile_authority tokens r occurrence_index scheduled_for_utc
    (decision.val.kind = .due)
  send s token (.claim_occurrence authority)

/-- What the schedule decides for: a slot of an active record. -/
theorem decided_slot (hdecision : resolve_schedule d r now = .ok decision)
    (hkind : decision.val.kind.is_occurrence = true) :
    r.val.status = .active ∧ ∃ k slot, decision.val.occurrence_index = some k ∧
      decision.val.scheduled_for_utc = some (format_canonical_utc slot) ∧
      31525372800 ≤ slot.seconds ∧ slot.seconds = slot_seconds d k ∧ 0 ≤ k ∧
      k < d.val.body.val.max_occurrences ∧
      (k = r.val.next_occurrence_index ↔ SingleSlot d r now) := by
  obtain ⟨hactive, _, hmore, hslots⟩ := resolve_schedule_ok hdecision hkind
  exact ⟨hactive, resolve_slots_ok hslots hkind r.checks.index.1 hmore⟩

theorem claimable_of_accepted (hmem : r ∈ s.val.records) (hd : r.val.definition = some d)
    (hdecision : resolve_schedule d r now = .ok decision)
    (hkind : decision.val.kind.is_occurrence = true)
    (haccepted : ∃ s', claim_decided tokens token s r decision = .ok s') : Claimable s r d now := by
  obtain ⟨_, k, slot, hindex, hscheduled, hyear, hseconds, _, _, hsingle⟩ :=
    decided_slot hdecision hkind
  have hpos := deadline_pos d
  simp only [claim_decided, hindex, hscheduled, bind_eq_ok, asserted_eq_ok, Option.some.injEq,
    exists_eq_left'] at haccepted
  obtain ⟨s', authority, hauthority, hsend⟩ := haccepted
  have hfor := reconcile_authority_ok hd hyear hauthority
  obtain ⟨action, haction, _, hhandle⟩ := handle_of_send hsend
  have hreduced := handle_change hhandle
  have hchange := hreduced.change
  rw [haction] at hchange
  -- the controller has compared the index with the cursor
  have hcursor : k = r.val.next_occurrence_index := by
    cases hchange with
    | change _ q r' hq _ hrecord _ _ =>
      cases hrecord with
      | claim _ e _ _ _ _ hcompared _ _ _ =>
        have hfound := find_record_of_mem hmem
        rw [← hfor.automation] at hfound
        obtain rfl := Option.some.inj (hfound.symm.trans hq)
        exact hfor.index.symm.trans hcompared
  obtain ⟨deadline, hdeadline, _⟩ := bind_eq_ok.mp hfor.deadline
  have hwritten := UtcTime.add_eq_ok.mp hdeadline
  have hrange := deadline.in_range
  refine ⟨hsingle.mp hcursor, ?_, ?_⟩
  · rw [← hcursor, ← hseconds]
    omega
  · have hgrown := hreduced.revision
    have hbound := s'.checks.revision.2
    omega

theorem accepted_of_claimable (hfree : s.unclaimed) (hmem : r ∈ s.val.records)
    (hd : r.val.definition = some d) (hdecision : resolve_schedule d r now = .ok decision)
    (hkind : decision.val.kind.is_occurrence = true) (htokens : tokens.Valid)
    (hlength : 16 ≤ token.toList.length) (hfresh : token ≠ s.val.snapshot_token)
    (hclaimable : Claimable s r d now) :
    ∃ s', claim_decided tokens token s r decision = .ok s' := by
  obtain ⟨hactive, k, slot, hindex, hscheduled, hyear, hseconds, hlow, hhigh, hsingle⟩ :=
    decided_slot hdecision hkind
  have hcursor := hsingle.mpr hclaimable.single
  have hdeadline := hclaimable.deadline
  rw [← hcursor, ← hseconds] at hdeadline
  obtain ⟨authority, hauthority⟩ := authority_created (decide (decision.val.kind = .due)) hd hyear hlow
    hhigh htokens hdeadline
  obtain ⟨s', hs'⟩ := claim_sent hfree hmem hd hactive hyear
    (reconcile_authority_ok hd hyear hauthority) hcursor hlength hfresh hclaimable.revision
  refine ⟨s', ?_⟩
  simp only [claim_decided, hindex, hscheduled, bind_eq_ok, asserted_eq_ok, Option.some.injEq,
    exists_eq_left']
  exact ⟨authority, hauthority, hs'⟩

/-- **When a due occurrence can be claimed**: in a snapshot without a claim,
    the claim of the occurrence the schedule decides for is accepted exactly
    when no later slot is due, its deadline can be written, and the store has a
    revision left. -/
theorem due_claim_accepted_iff (hfree : s.unclaimed) (hmem : r ∈ s.val.records)
    (hd : r.val.definition = some d) (hdecision : resolve_schedule d r now = .ok decision)
    (hkind : decision.val.kind = .due ∨ decision.val.kind = .misfire_skipped)
    (htokens : tokens.Valid) (hlength : 16 ≤ token.toList.length)
    (hfresh : token ≠ s.val.snapshot_token) :
    (∃ s', claim_decided tokens token s r decision = .ok s') ↔ Claimable s r d now := by
  have hoccurrence : decision.val.kind.is_occurrence = true := by
    rcases hkind with h | h <;> rw [h] <;> rfl
  constructor
  · exact claimable_of_accepted hmem hd hdecision hoccurrence
  · exact accepted_of_claimable hfree hmem hd hdecision hoccurrence htokens hlength hfresh

end Decisions

/-! ### A claim in time, and a late one -/

section Fixed

/-- The hourly automation is approved. -/
def approved_steps : List AutomationMutationV1 := [
  numbered 0 (.create_proposal hourly_body) numbered_create,
  numbered 1 (.approve_revision "hourly" hourly_definition preview_digest) numbered_approve]

/-- 2026-01-01 at this many seconds. -/
def new_year (seconds : Nat) (h : seconds < 86400 := by decide) : UtcTime :=
  ⟨63902822400 + seconds, by omega⟩

def drawn_tokens : ClaimTokens where
  claim_fencing_token := "fence-1"
  checkpoint_identity := "59b774a5253e2bc8e357bdfc95e4f7a4b214734f6da65a9f53b40711a10ba16b"
  raw_capability := "capability-of-the-first-occurrence"

/-- What the claims below start from, and the decision at a time. -/
def approved_at (now : UtcTime) (test : ScheduleDecisionFields → Bool) : Bool :=
  succeeds (automation_system.run empty_snapshot approved_steps) fun s =>
    s.val.snapshot_token = numbered_token 2 && s.val.revision = 2 &&
    (s.val.records.all fun r => r.val.active_claim = none) &&
    (find_record s "hourly").any fun r => r.val.definition = some hourly_definition &&
      r.val.next_occurrence_index = 0 &&
      succeeds (resolve_schedule hourly_definition r now) fun decision => test decision.val

theorem approved_at_iff {now : UtcTime} {test : ScheduleDecisionFields → Bool}
    (h : approved_at now test = true) : ∃ s r decision,
      automation_system.run empty_snapshot approved_steps = .ok s ∧
      s.val.snapshot_token = numbered_token 2 ∧ s.val.revision = 2 ∧ s.unclaimed ∧
      find_record s "hourly" = some r ∧ r.val.definition = some hourly_definition ∧
      r.val.next_occurrence_index = 0 ∧ resolve_schedule hourly_definition r now = .ok decision ∧
      test decision.val = true := by
  obtain ⟨s, hs, h⟩ := succeeds_iff.mp h
  simp only [Bool.and_eq_true, decide_eq_true_eq, Option.any_eq_true, List.all_eq_true] at h
  obtain ⟨⟨⟨htoken, hrevision⟩, hfree⟩, r, hr, ⟨hd, hcursor⟩, h⟩ := h
  obtain ⟨decision, hdecision, htest⟩ := succeeds_iff.mp h
  exact ⟨s, r, decision, hs, htoken, hrevision, hfree, hr, hd, hcursor, hdecision, htest⟩

theorem first_occurrence_claimed : ∃ s r decision s',
    automation_system.run empty_snapshot approved_steps = .ok s ∧
    find_record s "hourly" = some r ∧
    resolve_schedule hourly_definition r (new_year 30) = .ok decision ∧
    claim_decided drawn_tokens (numbered_token 3) s r decision = .ok s' := by
  have hcheck : approved_at (new_year 30) (fun decision => decision.kind = .due) = true := by
    decide +kernel
  obtain ⟨s, r, decision, hs, htoken, hrevision, hfree, hr, hd, hcursor, hdecision, hdue⟩ :=
    approved_at_iff hcheck
  have hclaimable : Claimable s r hourly_definition (new_year 30) := by
    refine ⟨.inr (.inr (.inl ?_)), ?_, by rw [hrevision]; decide⟩
    · rw [hcursor]
      decide +kernel
    · rw [hcursor]
      decide +kernel
  obtain ⟨s', hs'⟩ : ∃ s', claim_decided drawn_tokens (numbered_token 3) s r decision = .ok s' :=
    (due_claim_accepted_iff
    hfree (find_record_mem hr) hd hdecision (.inl (of_decide_eq_true hdue))
    ⟨by decide, by decide, by decide⟩ (by decide) (by rw [htoken]; decide)).mpr hclaimable
  exact ⟨s, r, decision, s', hs, hr, hdecision, hs'⟩

/-- When the reconciler wakes up after two slots, the claim of the latest one
    is refused, whatever it draws. -/
theorem late_claim_refused : ∃ s r decision,
    automation_system.run empty_snapshot approved_steps = .ok s ∧ s.unclaimed ∧
    find_record s "hourly" = some r ∧
    resolve_schedule hourly_definition r (new_year 7230) = .ok decision ∧
    decision.val.kind = .due ∧ decision.val.occurrence_index = some 2 ∧
    decision.val.superseded_indexes = [0, 1] ∧
    ∀ tokens token, ¬ ∃ s', claim_decided tokens token s r decision = .ok s' := by
  have hcheck : approved_at (new_year 7230) (fun decision => decision.kind = .due &&
      decision.occurrence_index = some 2 && decision.superseded_indexes = [0, 1]) = true := by
    decide +kernel
  obtain ⟨s, r, decision, hs, _, _, hfree, hr, hd, hcursor, hdecision, htest⟩ :=
    approved_at_iff hcheck
  simp only [Bool.and_eq_true, decide_eq_true_eq] at htest
  obtain ⟨⟨hdue, hindex⟩, hsuperseded⟩ := htest
  refine ⟨s, r, decision, hs, hfree, hr, hdecision, hdue, hindex, hsuperseded,
    fun tokens token haccepted => ?_⟩
  have hclaimable := claimable_of_accepted (find_record_mem hr) hd hdecision (by rw [hdue]; rfl)
    haccepted
  have hsingle := hclaimable.single
  simp only [SingleSlot, hcursor] at hsingle
  revert hsingle
  decide +kernel

end Fixed
