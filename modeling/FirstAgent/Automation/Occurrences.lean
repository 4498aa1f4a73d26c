import Mathlib.Data.List.Pairwise
import FirstAgent.Automation.Reconcile

/-! # Each Occurrence Runs Once

    The controller claims the occurrences of an automation in order: revision
    by revision, and index by index within a revision.  So a claim that was
    closed is never made again, and a claim that left the claimed phase does
    not return to it.  The reconciler executes a claim only after it marked it
    running, which it does once for each claim.

    A claim made for a late occurrence is in the claimed phase like any other
    until its outcome is recorded.  It is not executed as long as nothing comes
    between the claim and that outcome. -/

open Fallible Controlled

/-! ### The order of the claims -/

/-- The occurrence is earlier than this one of the same automation. -/
def BackgroundOccurrenceAuthorityV1.before (e : BackgroundOccurrenceAuthorityV1)
    (revision index : Int) : Prop :=
  e.val.automation_revision < revision ∨
    e.val.automation_revision = revision ∧ e.val.occurrence_index < index

/-- The record's claim is for the cursor's occurrence, or for one of an older
    revision. -/
def AutomationRecordV1.Current (r : AutomationRecordV1) : Prop :=
  ∀ claim, r.val.active_claim = some claim → ∃ d, r.val.definition = some d ∧
    (claim.val.automation_revision < d.val.body.val.revision ∨
      claim.val.automation_revision = d.val.body.val.revision ∧
        claim.val.occurrence_index = r.val.next_occurrence_index)

/-- The record is in the occurrence, or past it. -/
structure AutomationRecordV1.Passed (r : AutomationRecordV1) (e : BackgroundOccurrenceAuthorityV1) :
    Prop where
  approved : r.val.definition = none → r.val.draft_body = none
  idle : ∀ d, r.val.definition = some d → r.val.active_claim = none →
    e.before d.val.body.val.revision r.val.next_occurrence_index
  claimed : ∀ claim, r.val.active_claim = some claim →
    e = claim ∨ e.before claim.val.automation_revision claim.val.occurrence_index

/-- What the identity of an occurrence is the digest of. -/
def occurrence_fields (e : BackgroundOccurrenceAuthorityV1) : JsonDict := JsonDict.of [
  ("automation_id", .str e.val.automation_id),
  ("revision", .int e.val.automation_revision),
  ("occurrence_index", .int e.val.occurrence_index),
  ("scheduled_for_utc", .str e.val.scheduled_for_utc),
  ("definition_digest", .str e.val.definition_digest)]

/-- The claim a mutation makes. -/
def AutomationMutation.claims : AutomationMutation → List BackgroundOccurrenceAuthorityV1
  | .claim_occurrence authority => [authority]
  | _ => []

section Records

variable {s s' : AutomationSnapshotV1} {r r' : AutomationRecordV1} {m : AutomationMutation}
  {e claim : BackgroundOccurrenceAuthorityV1}

theorem not_before_self : ¬ e.before e.val.automation_revision e.val.occurrence_index := by
  unfold BackgroundOccurrenceAuthorityV1.before
  omega

/-- A claim repeats the revision of the definition it was made under. -/
theorem claim_revision {d : AutomationDefinitionV1} (hclaim : r.val.active_claim = some claim)
    (hd : r.val.active_claim_definition = some d) :
    claim.val.automation_id = d.val.body.val.automation_id ∧
      claim.val.automation_revision = d.val.body.val.revision := by
  have hchecks := r.checks.claim
  simp only [AutomationRecordFields.check_claim, hclaim, bind_eq_ok, Py.expect_value_eq_ok,
    Py.refuse_value_eq_ok, Bool.not_eq_false] at hchecks
  obtain ⟨_, _, _, _, d', hd', _, hmatches, _⟩ := hchecks
  obtain rfl := Option.some.inj (hd.symm.trans hd')
  simp only [AutomationRecordFields.claim_matches, Bool.and_eq_true, decide_eq_true_eq] at hmatches
  obtain ⟨⟨⟨hid, hrevision⟩, _⟩, _⟩ := hmatches
  exact ⟨hid, hrevision⟩

/-- A claim a record holds was there, or is the one just made. -/
theorem RecordChange.claim_origin (h : RecordChange s r r' m)
    (hclaim : r'.val.active_claim = some claim) :
    r.val.active_claim = some claim ∨ m = .claim_occurrence claim := by
  cases h with
  | begin_purge _ _ _ _ _ hnew => simp [hnew] at hclaim
  | claim authority _ _ _ _ _ _ _ _ hnew =>
    obtain rfl : authority = claim := by simpa [hnew] using hclaim
    exact .inr rfl
  | close _ _ _ _ _ _ _ _ _ _ _ hnew => simp [hnew] at hclaim
  | restart_object _ _ _ _ _ hnew => exact .inl (hnew ▸ hclaim)
  | approve _ _ _ _ _ _ _ hnew | stage _ _ _ _ hnew | pause _ _ hnew | resume _ _ _ _ hnew
  | cancel _ _ hnew | start_object _ _ _ _ _ _ _ _ hnew | object_unknown _ _ _ _ hnew
  | object_confirmed _ _ _ _ _ _ _ _ hnew | dispatch _ _ _ _ _ _ _ hnew
  | run _ _ _ _ _ _ _ hnew | unresolve _ _ _ _ _ _ _ _ hnew =>
    exact .inl (by simpa [hnew] using hclaim)

theorem AutomationRecordV1.Current.congr (h : r.Current)
    (hdefinition : r'.val.definition = r.val.definition)
    (hindex : r'.val.next_occurrence_index = r.val.next_occurrence_index)
    (hclaim : r'.val.active_claim = r.val.active_claim) : r'.Current := by
  intro claim hc
  rw [hdefinition, hindex]
  exact h claim (hclaim ▸ hc)

/-- A change keeps the claim current. -/
theorem RecordChange.current (h : RecordChange s r r' m) (hr : r.Current) : r'.Current := by
  cases h with
  | approve _ _ d _ _ _ hadvance hnew =>
    intro claim hclaim
    obtain ⟨e, he, horder⟩ := hr claim (by simpa [hnew] using hclaim)
    have := hadvance e he
    exact ⟨d, by rw [hnew], .inl (by omega)⟩
  | begin_purge _ _ _ _ _ hnew =>
    intro claim hclaim
    simp [hnew] at hclaim
  | claim authority d _ _ _ hdefinition hindex _ _ hnew =>
    intro claim hclaim
    obtain rfl : authority = claim := by simpa [hnew] using hclaim
    have hrevision := (claim_revision hclaim (by rw [hnew])).2
    exact ⟨d, by simpa [hnew] using hdefinition, .inr ⟨hrevision, by rw [hnew]; exact hindex⟩⟩
  | close _ _ _ _ _ _ _ _ _ _ _ hnew =>
    intro claim hclaim
    simp [hnew] at hclaim
  | restart_object _ _ _ _ _ hnew => exact hnew ▸ hr
  | stage _ _ _ _ hnew | pause _ _ hnew | resume _ _ _ _ hnew | cancel _ _ hnew
  | start_object _ _ _ _ _ _ _ _ hnew | object_unknown _ _ _ _ hnew
  | object_confirmed _ _ _ _ _ _ _ _ hnew | dispatch _ _ _ _ _ _ _ hnew
  | run _ _ _ _ _ _ _ hnew | unresolve _ _ _ _ _ _ _ _ hnew =>
    exact hr.congr (by rw [hnew]) (by rw [hnew]) (by rw [hnew])

theorem AutomationRecordV1.Passed.congr (h : r.Passed e)
    (hdefinition : r'.val.definition = r.val.definition)
    (hdraft : r'.val.draft_body = r.val.draft_body)
    (hindex : r'.val.next_occurrence_index = r.val.next_occurrence_index)
    (hclaim : r'.val.active_claim = r.val.active_claim) : r'.Passed e where
  approved := by
    rw [hdefinition, hdraft]
    exact h.approved
  idle := by
    rw [hdefinition, hclaim, hindex]
    exact h.idle
  claimed := by
    rw [hclaim]
    exact h.claimed

/-- A change does not go back behind an occurrence. -/
theorem RecordChange.passed (h : RecordChange s r r' m) (hr : r.Current) (he : r.Passed e) :
    r'.Passed e := by
  cases h with
  | approve _ _ d draft hdraft _ hadvance hnew =>
    obtain ⟨old, hold⟩ : ∃ old, r.val.definition = some old := by
      cases hd : r.val.definition with
      | some old => exact ⟨old, rfl⟩
      | none =>
        rw [he.approved hd] at hdraft
        cases hdraft
    have hnewer := hadvance old hold
    refine ⟨by simp [hnew], fun d' hd' hidle => ?_, by simpa [hnew] using he.claimed⟩
    obtain rfl : d = d' := by simpa [hnew] using hd'
    have hbefore := he.idle old hold (by simpa [hnew] using hidle)
    refine .inl ?_
    rcases hbefore with h | ⟨h, _⟩ <;> omega
  | begin_purge _ _ _ _ _ hnew =>
    exact ⟨by simp [hnew], by simp [hnew], by simp [hnew]⟩
  | claim authority d _ _ hidle hdefinition hindex _ _ hnew =>
    refine ⟨by simp [hnew, hdefinition], by simp [hnew], fun claim hclaim => .inr ?_⟩
    obtain rfl : authority = claim := by simpa [hnew] using hclaim
    rw [(claim_revision hclaim (by rw [hnew])).2, hindex]
    exact he.idle d hdefinition hidle
  | close _ _ _ claim _ hclaim _ _ _ _ _ hnew =>
    refine ⟨by simpa [hnew] using he.approved, fun d hd _ => ?_, by simp [hnew]⟩
    obtain ⟨d', hd', horder⟩ := hr claim hclaim
    obtain rfl : d' = d := by simpa [hnew, hd'] using hd
    -- the closed claim is the latest one of its revision
    have hlatest : e.val.automation_revision < claim.val.automation_revision ∨
        e.val.automation_revision = claim.val.automation_revision ∧
          e.val.occurrence_index ≤ claim.val.occurrence_index := by
      rcases he.claimed claim hclaim with rfl | h | ⟨h, hindex⟩
      · exact .inr ⟨rfl, le_refl _⟩
      · exact .inl h
      · exact .inr ⟨h, hindex.le⟩
    have hcursor : r'.val.next_occurrence_index = claim.val.occurrence_index + 1 := by rw [hnew]
    unfold BackgroundOccurrenceAuthorityV1.before
    omega
  | stage _ _ _ happroved hnew =>
    obtain ⟨d, hd⟩ := Option.isSome_iff_exists.mp happroved
    exact ⟨by simp [hnew, hd], by simpa [hnew] using he.idle, by simpa [hnew] using he.claimed⟩
  | restart_object _ _ _ _ _ hnew => exact hnew ▸ he
  | pause _ _ hnew | resume _ _ _ _ hnew | cancel _ _ hnew
  | start_object _ _ _ _ _ _ _ _ hnew | object_unknown _ _ _ _ hnew
  | object_confirmed _ _ _ _ _ _ _ _ hnew | dispatch _ _ _ _ _ _ _ hnew
  | run _ _ _ _ _ _ _ hnew | unresolve _ _ _ _ _ _ _ _ hnew =>
    exact he.congr (by rw [hnew]) (by rw [hnew]) (by rw [hnew]) (by rw [hnew])

/-- The identity of a claimed occurrence is the digest of its fields. -/
theorem claim_identity {d : AutomationDefinitionV1}
    (hid : claim.val.automation_id = d.val.body.val.automation_id)
    (hrevision : claim.val.automation_revision = d.val.body.val.revision)
    (hdigest : claim.val.definition_digest = d.val.definition_digest)
    (h : occurrence_identity d claim.val.occurrence_index claim.val.scheduled_for_utc =
      .ok claim.val.occurrence_id) :
    claim.val.occurrence_id = canonical_json_digest (.dict (occurrence_fields claim)) := by
  simp only [occurrence_identity, bind_eq_ok, pure_eq_ok] at h
  obtain ⟨_, _, _, _, h⟩ := h
  rw [← h, occurrence_fields, hid, hrevision, hdigest]

end Records

/-! ### The claims of a store -/

/-- The mutation was accepted, and left this snapshot. -/
def Handles (s : AutomationSnapshotV1) (m : AutomationMutation) (s' : AutomationSnapshotV1) : Prop :=
  ∃ action : AutomationMutationV1, action.val.mutation = m ∧ handle s action = .ok s'

/-- What a store knows of the claims made in it, oldest first. -/
structure ClaimsRecorded (s : AutomationSnapshotV1) (past : List BackgroundOccurrenceAuthorityV1) :
    Prop where
  claiming : ∀ id r, find_record s id = some r → r.Claiming
  current : ∀ id r, find_record s id = some r → r.Current
  active : ∀ id r claim, find_record s id = some r → r.val.active_claim = some claim →
    claim ∈ past ∧ claim.val.automation_id = id
  passed : ∀ e ∈ past, ∀ r, find_record s e.val.automation_id = some r → r.Passed e
  ordered : past.Pairwise fun e f => e.val.automation_id = f.val.automation_id →
    e.before f.val.automation_revision f.val.occurrence_index
  identity : ∀ e ∈ past, e.val.occurrence_id = canonical_json_digest (.dict (occurrence_fields e))

section Stores

variable {s s' : AutomationSnapshotV1} {m : AutomationMutation} {r : AutomationRecordV1}
  {past : List BackgroundOccurrenceAuthorityV1} {e f claim : BackgroundOccurrenceAuthorityV1}
  {token id : String}

theorem Handles.change (h : Handles s m s') : SnapshotChange s s' m := by
  obtain ⟨action, rfl, h⟩ := h
  exact (handle_change h).change

theorem handles_of_send (h : send s token m = .ok s') : Handles s m s' := by
  obtain ⟨action, hm, _, h⟩ := handle_of_send h
  exact ⟨action, hm, h⟩

theorem recorded_of_empty (h : s.val.is_empty) : ClaimsRecorded s [] where
  claiming := by simp [records_of_empty h]
  current := by simp [records_of_empty h]
  active := by simp [records_of_empty h]
  passed := by simp
  ordered := .nil
  identity := by simp

/-- A claim is made of a later occurrence than all claims before it. -/
theorem ClaimsRecorded.claim_later (hs : ClaimsRecorded s past) (h : Handles s (.claim_occurrence claim) s')
    (he : e ∈ past) (hid : e.val.automation_id = claim.val.automation_id) :
    e.before claim.val.automation_revision claim.val.occurrence_index := by
  cases h.change with
  | change _ r r' hr _ hrecord _ _ =>
    have hr : find_record s claim.val.automation_id = some r := hr
    cases hrecord with
    | claim _ d _ _ hidle hdefinition hindex _ _ hnew =>
      have hmade : r'.val.active_claim = some claim := by rw [hnew]
      have hrevision := (claim_revision hmade (by rw [hnew])).2
      rw [hrevision, hindex]
      exact (hs.passed e he r (hid ▸ hr)).idle d hdefinition hidle

/-- A claim is not made twice. -/
theorem ClaimsRecorded.claim_new (hs : ClaimsRecorded s past) (h : Handles s (.claim_occurrence claim) s') :
    claim ∉ past :=
  fun hmem => not_before_self (hs.claim_later h hmem rfl)

/-- The record a claim was made in. -/
theorem claimed_record (h : Handles s (.claim_occurrence claim) s') :
    ∃ r, find_record s' claim.val.automation_id = some r ∧ r.val.active_claim = some claim ∧
      r.val.active_claim_phase = some .claimed ∧
      claim.val.occurrence_id = canonical_json_digest (.dict (occurrence_fields claim)) := by
  cases h.change with
  | change _ r r' hr _ hrecord _ hfound =>
    cases hrecord with
    | claim _ d _ _ _ _ _ hdigest hidentity hnew =>
      have hmade : r'.val.active_claim = some claim := by rw [hnew]
      have hparts := claim_revision hmade (by rw [hnew])
      refine ⟨r', ?_, by rw [hnew], by rw [hnew],
        claim_identity hparts.1 hparts.2 hdigest hidentity⟩
      rw [hfound]
      exact if_pos rfl

/-- A mutation keeps the account of the claims, and adds the one it makes; a
    proposal takes an id that no claim bears. -/
theorem ClaimsRecorded.step (hs : ClaimsRecorded s past) (h : Handles s m s')
    (hproposal : ∀ body, m = .create_proposal body →
      ∀ e ∈ past, e.val.automation_id ≠ body.val.automation_id) :
    ClaimsRecorded s' (past ++ m.claims) := by
  have hchange := h.change
  have hclaims (e : BackgroundOccurrenceAuthorityV1) : e ∈ m.claims ↔ m = .claim_occurrence e := by
    cases m <;> simp [AutomationMutation.claims, eq_comm]
  constructor
  case claiming =>
    obtain ⟨action, _, h⟩ := h
    exact claiming_step h hs.claiming
  case current =>
    intro id r' hr'
    -- a record was there before, is new and has no claim, or is the changed one
    rcases hchange.record_origin hr' with hsame | ⟨_, _, _, _, hidle⟩ | ⟨_, r, hr, hrecord⟩
    · exact hs.current id r' hsame
    · intro claim hclaim
      rw [hidle] at hclaim
      cases hclaim
    · exact hrecord.current (hs.current id r hr)
  case active =>
    intro id r' claim hr' hclaim
    rcases hchange.record_origin hr' with hsame | ⟨_, _, _, _, hidle⟩ | ⟨hid, r, hr, hrecord⟩
    · obtain ⟨hmem, hid⟩ := hs.active id r' claim hsame hclaim
      exact ⟨List.mem_append_left _ hmem, hid⟩
    · rw [hidle] at hclaim
      cases hclaim
    · rcases hrecord.claim_origin hclaim with hold | rfl
      · obtain ⟨hmem, hid⟩ := hs.active id r claim hr hold
        exact ⟨List.mem_append_left _ hmem, hid⟩
      · exact ⟨List.mem_append_right _ (List.mem_singleton_self _), hid.symm⟩
  case passed =>
    intro e he r' hr'
    rcases List.mem_append.mp he with hold | hnew
    · rcases hchange.record_origin hr' with hsame | ⟨body, hm, hid, _, _⟩ | ⟨_, r, hr, hrecord⟩
      · exact hs.passed e hold r' hsame
      · exact absurd hid (hproposal body hm e hold)
      · exact hrecord.passed (hs.current _ r hr) (hs.passed e hold r hr)
    · obtain rfl := (hclaims e).mp hnew
      obtain ⟨r, hr, hclaim, _, _⟩ := claimed_record h
      obtain rfl := Option.some.inj (hr.symm.trans hr')
      -- a record with a claim is in use, so it has a definition
      obtain ⟨d, hd, _⟩ : ∃ d, r.val.definition = some d ∧ True := by
        have hin_use := in_use_parts (r := r) ?_
        · obtain ⟨d, hd⟩ := Option.isSome_iff_exists.mp hin_use.1
          exact ⟨d, hd, trivial⟩
        · obtain ⟨action, _, h⟩ := h
          exact (claiming_step h hs.claiming _ r hr).status (by simp [hclaim])
      exact ⟨by simp [hd], by simp [hclaim], fun c hc => .inl (by simpa [hclaim] using hc)⟩
  case ordered =>
    refine List.pairwise_append.mpr ⟨hs.ordered, ?_, ?_⟩
    · cases m <;> simp [AutomationMutation.claims]
    · intro e he f hf hid
      obtain rfl := (hclaims f).mp hf
      exact hs.claim_later h he hid
  case identity =>
    intro e he
    rcases List.mem_append.mp he with hold | hnew
    · exact hs.identity e hold
    · obtain rfl := (hclaims e).mp hnew
      obtain ⟨_, _, _, _, hidentity⟩ := claimed_record h
      exact hidentity

/-- The fields tell occurrences apart. -/
theorem same_occurrence (h : occurrence_fields e = occurrence_fields f) :
    e.val.automation_id = f.val.automation_id ∧
      e.val.automation_revision = f.val.automation_revision ∧
      e.val.occurrence_index = f.val.occurrence_index := by
  have hget (k : String) : (occurrence_fields e).get k = (occurrence_fields f).get k := by rw [h]
  refine ⟨?_, ?_, ?_⟩
  · simpa [occurrence_fields, Json.has_key, Json.freeze] using hget "automation_id"
  · simpa [occurrence_fields, Json.has_key, Json.freeze] using hget "revision"
  · simpa [occurrence_fields, Json.has_key, Json.freeze] using hget "occurrence_index"

/-- Claims of one occurrence are one claim. -/
theorem ClaimsRecorded.claim_unique (hs : ClaimsRecorded s past) (he : e ∈ past) (hf : f ∈ past)
    (h : occurrence_fields e = occurrence_fields f) : e = f := by
  have hdistinct : past.Pairwise fun e f => occurrence_fields e ≠ occurrence_fields f := by
    refine hs.ordered.imp fun {e f} horder heq => ?_
    obtain ⟨hid, hrevision, hindex⟩ := same_occurrence heq
    have hbefore := horder hid
    unfold BackgroundOccurrenceAuthorityV1.before at hbefore
    omega
  have hsymm : Std.Symm fun e f : BackgroundOccurrenceAuthorityV1 =>
    occurrence_fields e ≠ occurrence_fields f := ⟨fun _ _ hne => hne.symm⟩
  by_contra hne
  exact hdistinct.forall he hf hne h

end Stores

/-! ### One claim in a store -/

/-- The claim is open in this phase. -/
def HoldsClaim (s : AutomationSnapshotV1) (claim : BackgroundOccurrenceAuthorityV1)
    (phase : OccurrenceControlStatus) : Prop :=
  ∃ r, find_record s claim.val.automation_id = some r ∧ r.val.active_claim = some claim ∧
    r.val.active_claim_phase = some phase

/-- The claim is not open. -/
def ClaimClosed (s : AutomationSnapshotV1) (claim : BackgroundOccurrenceAuthorityV1) : Prop :=
  ∀ r, find_record s claim.val.automation_id = some r → r.val.active_claim ≠ some claim

/-- The claim is not open, or it is past its start. -/
def ClaimStarted (s : AutomationSnapshotV1) (claim : BackgroundOccurrenceAuthorityV1) : Prop :=
  ∀ r, find_record s claim.val.automation_id = some r → r.val.active_claim = some claim →
    r.val.active_claim_phase ≠ some .claimed ∧ r.val.active_claim_phase ≠ some .dispatched

section Claims

variable {s s' : AutomationSnapshotV1} {m : AutomationMutation} {r r' : AutomationRecordV1}
  {past : List BackgroundOccurrenceAuthorityV1} {claim : BackgroundOccurrenceAuthorityV1}
  {process : String} {summary : OccurrenceSummaryV1}

/-- A closed claim stays closed, unless it is made. -/
theorem ClaimClosed.step (hclosed : ClaimClosed s claim) (h : Handles s m s')
    (hm : m ≠ .claim_occurrence claim) : ClaimClosed s' claim := by
  intro r' hr' hclaim
  rcases h.change.record_origin hr' with hsame | ⟨_, _, _, _, hidle⟩ | ⟨_, r, hr, hrecord⟩
  · exact hclosed r' hsame hclaim
  · rw [hidle] at hclaim
    cases hclaim
  · rcases hrecord.claim_origin hclaim with hold | hnew
    · exact hclosed r hr hold
    · exact hm hnew

/-- No change brings a claim back to its start. -/
theorem RecordChange.started (h : RecordChange s r r' m)
    (hr : r.val.active_claim_phase ≠ some .claimed ∧ r.val.active_claim_phase ≠ some .dispatched)
    (hclaim : r'.val.active_claim = some claim) (hm : m ≠ .claim_occurrence claim) :
    r'.val.active_claim_phase ≠ some .claimed ∧ r'.val.active_claim_phase ≠ some .dispatched := by
  cases h with
  | begin_purge _ _ _ _ _ hnew => simp [hnew] at hclaim
  | claim authority _ _ _ _ _ _ _ _ hnew =>
    obtain rfl : authority = claim := by simpa [hnew] using hclaim
    exact absurd rfl hm
  | dispatch _ _ _ _ _ _ hphase _ => exact absurd hphase hr.1
  | run _ _ _ _ _ _ hphase _ => exact absurd hphase hr.2
  | unresolve _ _ _ _ _ _ _ hunresolved hnew =>
    simp only [hnew, ne_eq, Option.some.injEq]
    constructor <;> rintro heq <;> rw [heq] at hunresolved <;> cases hunresolved
  | close _ _ _ _ _ _ _ _ _ _ _ hnew => simp [hnew] at hclaim
  | restart_object _ _ _ _ _ hnew => exact hnew ▸ hr
  | approve _ _ _ _ _ _ _ hnew | stage _ _ _ _ hnew | pause _ _ hnew | resume _ _ _ _ hnew
  | cancel _ _ hnew | start_object _ _ _ _ _ _ _ _ hnew | object_unknown _ _ _ _ hnew
  | object_confirmed _ _ _ _ _ _ _ _ hnew =>
    simpa [hnew] using hr

theorem ClaimStarted.step (hstarted : ClaimStarted s claim) (h : Handles s m s')
    (hm : m ≠ .claim_occurrence claim) : ClaimStarted s' claim := by
  intro r' hr' hclaim
  rcases h.change.record_origin hr' with hsame | ⟨_, _, _, _, hidle⟩ | ⟨_, r, hr, hrecord⟩
  · exact hstarted r' hsame hclaim
  · rw [hidle] at hclaim
    cases hclaim
  · rcases hrecord.claim_origin hclaim with hold | hnew
    · exact hrecord.started (hstarted r hr hold) hclaim hm
    · exact absurd hnew hm

/-- A record that holds a claim is still there after a mutation, changed if the
    mutation is about it. -/
theorem SnapshotChange.claim_record {id : String} (h : SnapshotChange s s' m)
    (hr : find_record s id = some r) (hclaim : r.val.active_claim ≠ none) :
    ∃ r', find_record s' id = some r' ∧
      (id ≠ m.automation_id ∧ r' = r ∨ id = m.automation_id ∧ RecordChange s r r' m) := by
  cases h with
  | create body q hfresh _ _ _ hfound =>
    have hne : id ≠ body.val.automation_id := by
      rintro rfl
      rw [hfresh] at hr
      cases hr
    exact ⟨r, by rw [hfound, if_neg hne, hr], .inl ⟨hne, rfl⟩⟩
  | change _ q q' hq _ hrecord _ hfound =>
    by_cases hid : id = m.automation_id
    · subst hid
      obtain rfl := Option.some.inj (hr.symm.trans hq)
      exact ⟨q', by rw [hfound, if_pos rfl], .inr ⟨rfl, hrecord⟩⟩
    · exact ⟨r, by rw [hfound, if_neg hid, hr], .inl ⟨hid, rfl⟩⟩
  | finish i _ q _ _ hq hpurging _ _ _ _ _ _ hfound =>
    have hne : id ≠ i := by
      rintro rfl
      obtain rfl := Option.some.inj (hr.symm.trans hq)
      exact hclaim (purging_empty hpurging).1
    exact ⟨r, by rw [hfound, if_neg hne, hr], .inl ⟨hne, rfl⟩⟩

/-- Users leave an open claim in its phase. -/
theorem HoldsClaim.control {phase : OccurrenceControlStatus} (hclaim : HoldsClaim s claim phase)
    (h : Handles s m s') (hm : m.is_control = true) : HoldsClaim s' claim phase := by
  obtain ⟨r, hr, hopen, hphase⟩ := hclaim
  obtain ⟨r', hr', ⟨_, rfl⟩ | ⟨_, hrecord⟩⟩ := h.change.claim_record hr (by simp [hopen])
  · exact ⟨r', hr', hopen, hphase⟩
  · refine ⟨r', hr', ?_⟩
    cases hrecord with
    | begin_purge _ _ _ _ hidle _ =>
      rw [hopen] at hidle
      cases hidle
    | approve _ _ _ _ _ _ _ hnew | stage _ _ _ _ hnew | pause _ _ hnew | resume _ _ _ _ hnew
    | cancel _ _ hnew =>
      exact ⟨by rw [hnew]; exact hopen, by rw [hnew]; exact hphase⟩
    | _ => cases hm

theorem HoldsClaim.dispatched (hclaim : HoldsClaim s claim .claimed)
    (h : Handles s (.mark_dispatched claim.val.automation_id claim.val.authority_digest process) s') :
    HoldsClaim s' claim .dispatched := by
  obtain ⟨r, hr, hopen, _⟩ := hclaim
  obtain ⟨r', hr', ⟨hne, _⟩ | ⟨_, hrecord⟩⟩ := h.change.claim_record hr (by simp [hopen])
  · exact absurd rfl hne
  · cases hrecord with
    | dispatch _ _ _ _ _ _ _ hnew => exact ⟨r', hr', by rw [hnew]; exact hopen, by rw [hnew]⟩

theorem HoldsClaim.running (hclaim : HoldsClaim s claim .dispatched)
    (h : Handles s (.mark_running claim.val.automation_id claim.val.authority_digest process) s') :
    HoldsClaim s' claim .running := by
  obtain ⟨r, hr, hopen, _⟩ := hclaim
  obtain ⟨r', hr', ⟨hne, _⟩ | ⟨_, hrecord⟩⟩ := h.change.claim_record hr (by simp [hopen])
  · exact absurd rfl hne
  · cases hrecord with
    | run _ _ _ _ _ _ _ hnew => exact ⟨r', hr', by rw [hnew]; exact hopen, by rw [hnew]⟩

/-- An outcome that is not an unresolved one closes the claim. -/
theorem outcome_closes {phase : OccurrenceControlStatus} (hclaim : HoldsClaim s claim phase)
    (h : Handles s (.record_occurrence_outcome claim.val.automation_id claim.val.authority_digest
      summary) s') (hresolved : summary.val.status.is_unresolved = false) :
    ClaimClosed s' claim := by
  obtain ⟨r, hr, hopen, _⟩ := hclaim
  obtain ⟨r', hr', ⟨hne, _⟩ | ⟨_, hrecord⟩⟩ := h.change.claim_record hr (by simp [hopen])
  · exact absurd rfl hne
  · intro q hq
    obtain rfl := Option.some.inj (hr'.symm.trans hq)
    cases hrecord with
    | unresolve _ _ _ _ _ _ _ hunresolved _ =>
      rw [hresolved] at hunresolved
      cases hunresolved
    | close _ _ _ _ _ _ _ _ _ _ _ hnew => simp [hnew]

/-- An open claim that is past its start is in neither of its first phases. -/
theorem ClaimStarted.not_held {phase : OccurrenceControlStatus} (hstarted : ClaimStarted s claim)
    (hphase : phase = .claimed ∨ phase = .dispatched) : ¬ HoldsClaim s claim phase := by
  rintro ⟨r, hr, hopen, hp⟩
  obtain ⟨hclaimed, hdispatched⟩ := hstarted r hr hopen
  rcases hphase with rfl | rfl
  · exact hclaimed hp
  · exact hdispatched hp

theorem HoldsClaim.not_closed {phase : OccurrenceControlStatus} (hclaim : HoldsClaim s claim phase) :
    ¬ ClaimClosed s claim := by
  obtain ⟨r, hr, hopen, _⟩ := hclaim
  exact fun hclosed => hclosed r hr hopen

theorem HoldsClaim.started (hclaim : HoldsClaim s claim .running) : ClaimStarted s claim := by
  obtain ⟨r, hr, _, hphase⟩ := hclaim
  intro q hq _
  obtain rfl := Option.some.inj (hr.symm.trans hq)
  simp [hphase]

end Claims
