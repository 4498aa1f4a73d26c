import FirstAgent.Automation.Controller

/-! # What a Mutation Does to One Automation

    Every accepted mutation adds a proposal, changes one record, or turns one
    record into a tombstone; every other automation is left alone.  A change
    of a record is a `RecordChange`, with the checks the mutation made and the
    fields it wrote; the properties of automations are read off it, and no
    proof but those of this module unfolds the controller. -/

open Fallible Controlled

/-! ### Stores in order -/

theorem PyText.sorted_unique_iff {xs : List String} :
    PyText.sorted_unique xs = true ↔ xs.Pairwise (· < ·) := by
  induction xs with
  | nil => simp [PyText.sorted_unique]
  | cons a xs ih =>
    cases xs with
    | nil => simp [PyText.sorted_unique]
    | cons b xs =>
      simp only [PyText.sorted_unique, Bool.and_eq_true, decide_eq_true_eq, ih]
      rw [List.pairwise_cons (a := a)]
      constructor
      · rintro ⟨hab, hxs⟩
        refine ⟨fun c hc => ?_, hxs⟩
        rcases List.mem_cons.mp hc with rfl | hc
        · exact hab
        · exact lt_trans hab ((List.pairwise_cons.mp hxs).1 c hc)
      · rintro ⟨ha, hxs⟩
        exact ⟨ha b List.mem_cons_self, hxs⟩

/-! ### What the constructors check -/

/-- What the constructor of a record checks. -/
structure AutomationRecordFields.Valid (r : AutomationRecordFields) : Prop where
  index : 0 ≤ r.next_occurrence_index ∧ r.next_occurrence_index ≤ 128
  count : 0 ≤ r.terminal_occurrence_count ∧ r.terminal_occurrence_count ≤ 128
  reason : r.needs_human_reason ≠ .null → r.needs_human_reason.truthy = true ∧ r.status = .paused
  status : r.check_status = .ok ()
  purge : r.check_purge = .ok ()
  draft : r.check_draft = .ok ()
  claim : r.check_claim = .ok ()
  history : r.terminal_history.length ≤ 128

theorem AutomationRecordFields.post_init_eq_ok {r : AutomationRecordFields} :
    r.post_init = .ok () ↔ r.Valid := by
  simp only [post_init, Py.require_nonnegative_int, bind_eq_ok, Py.refuse_value_eq_ok, not_or,
    not_lt, exists_const, not_and, Bool.not_eq_false, not_not]
  constructor
  · rintro ⟨h1, h2, h3, h4, _, h5, _, h6, _, h7, _, h8, h9⟩
    exact ⟨h1, h2, fun h => ⟨h3 h, h4 h⟩, h5, h6, h7, h8, h9⟩
  · rintro ⟨h1, h2, h3, h5, h6, h7, h8, h9⟩
    exact ⟨h1, h2, fun h => (h3 h).1, fun h => (h3 h).2, (), h5, (), h6, (), h7, (), h8, h9⟩

theorem AutomationRecordV1.checks (r : AutomationRecordV1) : r.val.Valid :=
  AutomationRecordFields.post_init_eq_ok.mp r.valid

/-- What the constructor of a snapshot checks. -/
structure AutomationSnapshotFields.Valid (s : AutomationSnapshotFields) : Prop where
  revision : 0 ≤ s.revision ∧ s.revision ≤ 2 ^ 63 - 1
  token : 16 ≤ s.snapshot_token.toList.length
  records : s.records.length ≤ 128
  tombstones : s.tombstones.length ≤ 128
  ordered : KeyedStore.Ordered AutomationRecordV1.automation_id s.records
  tombstones_ordered : KeyedStore.Ordered AutomationTombstoneV1.automation_id s.tombstones
  disjoint : ∀ i ∈ s.record_ids, i ∉ s.tombstone_ids
  nonterminal : s.nonterminal_count ≤ 32

theorem AutomationSnapshotFields.post_init_eq_ok {s : AutomationSnapshotFields} :
    s.post_init = .ok () ↔ s.Valid := by
  simp only [post_init, Py.require_nonnegative_int, bind_eq_ok, Py.refuse_value_eq_ok, not_or,
    not_lt, exists_const, Bool.not_eq_false, PyText.sorted_unique_iff, Bool.not_eq_true,
    List.any_eq_false, List.contains_iff_mem]
  constructor
  · rintro ⟨h1, h2, h3, h4, h5, h6, h7, h8⟩
    exact ⟨h1, h2, h3, h4, h5, h6, h7, h8⟩
  · rintro ⟨h1, h2, h3, h4, h5, h6, h7, h8⟩
    exact ⟨h1, h2, h3, h4, h5, h6, h7, h8⟩

theorem AutomationSnapshotV1.checks (s : AutomationSnapshotV1) : s.val.Valid :=
  AutomationSnapshotFields.post_init_eq_ok.mp s.valid

variable {s s' : AutomationSnapshotV1} {token : String}

theorem find_record_id {id : String} {r : AutomationRecordV1} (h : find_record s id = some r) :
    r.automation_id = id :=
  KeyedStore.find_key h

theorem find_record_mem {id : String} {r : AutomationRecordV1} (h : find_record s id = some r) :
    r ∈ s.val.records :=
  KeyedStore.find_mem h

theorem find_record_of_mem {r : AutomationRecordV1} (h : r ∈ s.val.records) :
    find_record s r.automation_id = some r :=
  KeyedStore.find_of_mem s.checks.ordered h

/-! ### Writing a snapshot -/

/-- What a change of one record leaves. -/
structure Replaces (s s' : AutomationSnapshotV1) (token : String) (r : AutomationRecordV1) :
    Prop where
  revision : s'.val.revision = s.val.revision + 1
  token : s'.val.snapshot_token = token
  tombstones : s'.val.tombstones = s.val.tombstones
  found : ∀ k, find_record s' k = if k = r.automation_id then some r else find_record s k

theorem replace_record_ok {r : AutomationRecordV1} (r' : AutomationRecordV1)
    (hr : find_record s r'.automation_id = some r) (h : replace_record s r' token = .ok s') :
    Replaces s s' token r' := by
  simp only [replace_record, next_snapshot, construct_eq_ok, Checked.make_eq_ok] at h
  have hrecords : s'.val.records =
      KeyedStore.replace AutomationRecordV1.automation_id r' s.val.records := by
    rw [h]
    exact KeyedStore.sort_of_ordered (KeyedStore.ordered_replace s.checks.ordered)
  refine ⟨by rw [h], by rw [h], by rw [h], fun k => ?_⟩
  rw [find_record, hrecords]
  exact KeyedStore.find_replace hr k

/-- A record may be replaced while the revision can grow and the record does
    not become nonterminal. -/
theorem replace_record_accepts {r : AutomationRecordV1} (r' : AutomationRecordV1)
    (hr : find_record s r'.automation_id = some r) (htoken : 16 ≤ token.toList.length)
    (hrevision : s.val.revision < 2 ^ 63 - 1)
    (hstatus : r'.val.status.is_nonterminal = true → r.val.status.is_nonterminal = true) :
    ∃ s', replace_record s r' token = .ok s' := by
  have hs := s.checks
  have hreplaced := KeyedStore.ordered_replace (x := r') hs.ordered
  have hids : (KeyedStore.replace AutomationRecordV1.automation_id r' s.val.records).map
      AutomationRecordV1.automation_id = s.val.record_ids := KeyedStore.map_key_replace _ _
  have hvalid : AutomationSnapshotFields.post_init {
      revision := s.val.revision + 1
      snapshot_token := token
      records := KeyedStore.replace AutomationRecordV1.automation_id r' s.val.records
      tombstones := s.val.tombstones } = .ok () := by
    refine AutomationSnapshotFields.post_init_eq_ok.mpr {
      revision := ⟨by have := hs.revision.1; dsimp only; omega, by dsimp only; omega⟩
      token := htoken
      records := by simpa [KeyedStore.replace] using hs.records
      tombstones := hs.tombstones
      ordered := hreplaced
      tombstones_ordered := hs.tombstones_ordered
      disjoint := fun i hi => hs.disjoint i (hids ▸ hi)
      nonterminal := le_trans (KeyedStore.countP_replace_le _ ?_) hs.nonterminal }
    intro y hy hkey hnonterminal
    have hsame : y = r := by
      have hfound := KeyedStore.find_of_mem hs.ordered hy
      rw [hkey] at hfound
      exact Option.some.inj (hfound.symm.trans hr)
    rw [hsame]
    exact hstatus hnonterminal
  refine ⟨⟨_, hvalid⟩, ?_⟩
  simp only [replace_record, next_snapshot, construct_eq_ok, Checked.make_eq_ok,
    KeyedStore.sort_of_ordered hreplaced]

/-! ### The changes -/

/-- The automation a mutation is about. -/
def AutomationMutation.automation_id : AutomationMutation → String
  | .create_proposal body => body.val.automation_id
  | .approve_revision id _ _ | .stage_revision id _ | .pause_automation id
  | .resume_automation id | .cancel_automation id | .begin_purge id _ _
  | .start_purge_object id _ | .record_purge_progress id _ _ | .finish_purge id _
  | .mark_dispatched id _ _ | .mark_running id _ _ | .record_occurrence_outcome id _ _ => id
  | .claim_occurrence authority => authority.val.automation_id

/-- No record of the snapshot holds a claim. -/
def AutomationSnapshotV1.unclaimed (s : AutomationSnapshotV1) : Prop :=
  ∀ r ∈ s.val.records, r.val.active_claim = none

/-- One change of a record, with the checks its mutation made. -/
inductive RecordChange (s : AutomationSnapshotV1) (r r' : AutomationRecordV1) :
    AutomationMutation → Prop where
  | approve (id preview : String) (d : AutomationDefinitionV1)
      (draft : AutomationDefinitionBodyV1) (hdraft : r.val.draft_body = some draft)
      (hbody : draft.val.definition_body_digest = d.val.body.val.definition_body_digest)
      (hadvance : ∀ e, r.val.definition = some e →
        e.val.body.val.revision < d.val.body.val.revision)
      (hnew : r'.val = { r.val with
        definition := some d
        draft_body := none
        status := approved_status r.val.status
        next_occurrence_index := 0
        terminal_occurrence_count := 0 }) :
      RecordChange s r r' (.approve_revision id d preview)
  | stage (id : String) (body : AutomationDefinitionBodyV1)
      (hstatus : r.val.status ≠ .canceled ∧ r.val.status ≠ .purge_pending)
      (happroved : r.val.definition.isSome) (hnew : r'.val = { r.val with draft_body := some body }) :
      RecordChange s r r' (.stage_revision id body)
  | pause (id : String) (hstatus : r.val.status = .active ∨ r.val.status = .paused)
      (hnew : r'.val = { r.val with status := .paused }) :
      RecordChange s r r' (.pause_automation id)
  | resume (id : String) (hstatus : r.val.status = .paused) (hidle : r.val.active_claim = none)
      (hneeds : r.val.needs_human_reason = .null)
      (hnew : r'.val = { r.val with status := .active }) :
      RecordChange s r r' (.resume_automation id)
  | cancel (id : String) (hstatus : r.val.status ≠ .canceled ∧ r.val.status ≠ .purge_pending)
      (hnew : r'.val = { r.val with status := canceled_status r.val.active_claim }) :
      RecordChange s r r' (.cancel_automation id)
  | begin_purge (id preview : String) (manifest : PurgeOwnershipManifestV1)
      (hstatus : r.val.status = .canceled) (hidle : r.val.active_claim = none)
      (hnew : r'.val = {
        definition := none
        draft_body := none
        status := .purge_pending
        next_occurrence_index := r.val.next_occurrence_index
        terminal_occurrence_count := r.val.terminal_occurrence_count
        needs_human_reason := .null
        active_claim := none
        terminal_history := []
        purge_manifest := some manifest }) :
      RecordChange s r r' (.begin_purge id manifest preview)
  | start_object (id object_id : String) (manifest : PurgeOwnershipManifestV1)
      (hstatus : r.val.status = .purge_pending) (hmanifest : r.val.purge_manifest = some manifest)
      (hknown : r.val.purge_cleanup_unknown_object_id = none)
      (hidle : r.val.purge_active_object_id = none)
      (hpending : object_id ∈ manifest.val.object_ids ∧
        object_id ∉ r.val.purge_confirmed_object_ids)
      (hnew : r'.val = { r.val with purge_active_object_id := some object_id }) :
      RecordChange s r r' (.start_purge_object id object_id)
  | restart_object (id object_id : String) (hstatus : r.val.status = .purge_pending)
      (hknown : r.val.purge_cleanup_unknown_object_id = none)
      (hactive : r.val.purge_active_object_id = some object_id) (hnew : r' = r) :
      RecordChange s r r' (.start_purge_object id object_id)
  | object_unknown (id object_id : String) (hstatus : r.val.status = .purge_pending)
      (hactive : r.val.purge_active_object_id = some object_id)
      (hnew : r'.val = { r.val with purge_cleanup_unknown_object_id := some object_id }) :
      RecordChange s r r' (.record_purge_progress id object_id .cleanup_unknown)
  | object_confirmed (id object_id : String) (manifest : PurgeOwnershipManifestV1)
      (o : PurgeOwnedObjectV1) (hstatus : r.val.status = .purge_pending)
      (hactive : r.val.purge_active_object_id = some object_id)
      (hmanifest : r.val.purge_manifest = some manifest)
      (hobject : manifest.val.objects.find? (fun o => o.val.object_id = object_id) = some o)
      (hnew : r'.val = { r.val with
        purge_confirmed_object_ids :=
          (r.val.purge_confirmed_object_ids ++ [object_id]).insertionSort (· ≤ ·)
        purge_active_object_id := none
        purge_cleanup_unknown_object_id := none }) :
      RecordChange s r r' (.record_purge_progress id object_id o.val.kind.confirming)
  | claim (authority : BackgroundOccurrenceAuthorityV1) (d : AutomationDefinitionV1)
      (hstatus : r.val.status = .active) (hfree : s.unclaimed)
      (hidle : r.val.active_claim = none) (hdefinition : r.val.definition = some d)
      (hindex : authority.val.occurrence_index = r.val.next_occurrence_index)
      (hdigest : authority.val.definition_digest = d.val.definition_digest)
      (hidentity : occurrence_identity d authority.val.occurrence_index
        authority.val.scheduled_for_utc = .ok authority.val.occurrence_id)
      (hnew : r'.val = { r.val with
        active_claim := some authority
        active_claim_phase := some .claimed
        active_claim_definition := some d
        active_process_identity_digest := .null }) :
      RecordChange s r r' (.claim_occurrence authority)
  | dispatch (id digest process : String) (claim : BackgroundOccurrenceAuthorityV1)
      (hclaim : r.val.active_claim = some claim) (hdigest : claim.val.authority_digest = digest)
      (hphase : r.val.active_claim_phase = some .claimed)
      (hnew : r'.val = { r.val with
        active_claim_phase := some .dispatched
        active_process_identity_digest := .str process }) :
      RecordChange s r r' (.mark_dispatched id digest process)
  | run (id digest process : String) (claim : BackgroundOccurrenceAuthorityV1)
      (hclaim : r.val.active_claim = some claim) (hdigest : claim.val.authority_digest = digest)
      (hphase : r.val.active_claim_phase = some .dispatched)
      (hnew : r'.val = { r.val with active_claim_phase := some .running }) :
      RecordChange s r r' (.mark_running id digest process)
  | unresolve (id digest : String) (summary : OccurrenceSummaryV1)
      (claim : BackgroundOccurrenceAuthorityV1) (hclaim : r.val.active_claim = some claim)
      (hdigest : claim.val.authority_digest = digest)
      (hmatches : summary_matches summary claim = true)
      (hunresolved : summary.val.status.is_unresolved = true)
      (hnew : r'.val = { r.val with
        status := .paused
        needs_human_reason := summary.val.error_code
        active_claim_phase := some summary.val.status }) :
      RecordChange s r r' (.record_occurrence_outcome id digest summary)
  | close (id digest : String) (summary : OccurrenceSummaryV1)
      (claim : BackgroundOccurrenceAuthorityV1) (phase : OccurrenceControlStatus)
      (hclaim : r.val.active_claim = some claim) (hdigest : claim.val.authority_digest = digest)
      (hphase : r.val.active_claim_phase = some phase)
      (hmatches : summary_matches summary claim = true)
      (hcloses : closes_phase phase summary.val.status = true)
      (hroom : r.val.terminal_history.length < 128)
      (hnew : r'.val = { r.val with
        status := closed_status r.val.status
        next_occurrence_index := claim.val.occurrence_index + 1
        terminal_occurrence_count := r.val.terminal_occurrence_count + 1
        needs_human_reason := .null
        active_claim := none
        active_claim_phase := none
        active_claim_definition := none
        active_process_identity_digest := .null
        terminal_history := r.val.terminal_history ++ [summary] }) :
      RecordChange s r r' (.record_occurrence_outcome id digest summary)

/-- What an accepted mutation does to the snapshot. -/
inductive SnapshotChange (s s' : AutomationSnapshotV1) : AutomationMutation → Prop where
  | create (body : AutomationDefinitionBodyV1) (r' : AutomationRecordV1)
      (hfresh : find_record s body.val.automation_id = none)
      (hnew : r'.val = {
        definition := none
        status := .proposal
        next_occurrence_index := 0
        terminal_occurrence_count := 0
        needs_human_reason := .null
        active_claim := none
        terminal_history := []
        draft_body := some body })
      (hburied : ∀ t ∈ s.val.tombstones, t.val.automation_id ≠ body.val.automation_id)
      (htombs : s'.val.tombstones = s.val.tombstones)
      (hfound : ∀ k, find_record s' k =
        if k = body.val.automation_id then some r' else find_record s k) :
      SnapshotChange s s' (.create_proposal body)
  | change (m : AutomationMutation) (r r' : AutomationRecordV1)
      (hr : find_record s m.automation_id = some r) (hid : r'.automation_id = m.automation_id)
      (hchange : RecordChange s r r' m)
      (htombs : s'.val.tombstones = s.val.tombstones)
      (hfound : ∀ k, find_record s' k =
        if k = m.automation_id then some r' else find_record s k) :
      SnapshotChange s s' m
  | finish (id purged_at : String) (r : AutomationRecordV1) (manifest : PurgeOwnershipManifestV1)
      (t : AutomationTombstoneV1) (hr : find_record s id = some r)
      (hstatus : r.val.status = .purge_pending) (hmanifest : r.val.purge_manifest = some manifest)
      (hidle : r.val.purge_active_object_id = none)
      (hknown : r.val.purge_cleanup_unknown_object_id = none)
      (hconfirmed : r.val.purge_confirmed_object_ids = manifest.val.object_ids)
      (ht : t.val.automation_id = id)
      (htombs : s'.val.tombstones = KeyedStore.sort AutomationTombstoneV1.automation_id
        (keep_tombstones (s.val.tombstones ++ [t])))
      (hfound : ∀ k, find_record s' k = if k = id then none else find_record s k) :
      SnapshotChange s s' (.finish_purge id purged_at)

/-! ### Each mutation is one change -/

section Changes

variable {r r' : AutomationRecordV1} {m : AutomationMutation} {id : String}

/-- The snapshot has changed as the mutation says, under the new token. -/
structure Reduces (s s' : AutomationSnapshotV1) (token : String) (m : AutomationMutation) :
    Prop where
  change : SnapshotChange s s' m
  revision : s'.val.revision = s.val.revision + 1
  token : s'.val.snapshot_token = token

theorem require_record_eq_ok : require_record s id = .ok r ↔ find_record s id = some r :=
  expect_transition_eq_ok

/-- A record keeps its id when its definition, draft and manifest stay. -/
theorem automation_id_of_fields (hdefinition : r'.val.definition = r.val.definition)
    (hdraft : r'.val.draft_body = r.val.draft_body)
    (hmanifest : r'.val.purge_manifest = r.val.purge_manifest) :
    r'.automation_id = r.automation_id := by
  simp only [AutomationRecordV1.automation_id, AutomationRecordFields.automation_id, hdefinition,
    hdraft, hmanifest]

theorem kept_record_id (hr : find_record s id = some r)
    (hdefinition : r'.val.definition = r.val.definition)
    (hdraft : r'.val.draft_body = r.val.draft_body)
    (hmanifest : r'.val.purge_manifest = r.val.purge_manifest) : r'.automation_id = id :=
  (automation_id_of_fields hdefinition hdraft hmanifest).trans (find_record_id hr)

theorem automation_id_of_definition {d : AutomationDefinitionV1} (h : r.val.definition = some d) :
    r.automation_id = d.val.body.val.automation_id := by
  simp [AutomationRecordV1.automation_id, AutomationRecordFields.automation_id, h]

theorem replaced (hr : find_record s m.automation_id = some r)
    (hid : r'.automation_id = m.automation_id) (hchange : RecordChange s r r' m)
    (h : replace_record s r' token = .ok s') : Reduces s s' token m := by
  have hwrite := replace_record_ok (r := r) _ (hid ▸ hr) h
  exact ⟨.change m r r' hr hid hchange hwrite.tombstones (hid ▸ hwrite.found), hwrite.revision,
    hwrite.token⟩

theorem create_proposal_change {body : AutomationDefinitionBodyV1}
    (h : create_proposal s token body = .ok s') : Reduces s s' token (.create_proposal body) := by
  simp only [create_proposal, bind_eq_ok, refuse_transition_eq_ok, construct_eq_ok,
    Checked.make_eq_ok, not_or, next_snapshot] at h
  obtain ⟨_, ⟨hfresh, hburied⟩, _, _, record, hnew, h⟩ := h
  have hid : AutomationRecordV1.automation_id record = body.val.automation_id := by
    simp [AutomationRecordV1.automation_id, AutomationRecordFields.automation_id, hnew]
  have hnone : find_record s body.val.automation_id = none := by
    simpa using hfresh
  refine ⟨.create body record hnone hnew ?_ (by rw [h]) fun k => ?_, by rw [h], by rw [h]⟩
  · intro t ht heq
    exact hburied (List.any_eq_true.mpr ⟨t, ht, decide_eq_true heq⟩)
  · rw [find_record, h, ← hid]
    exact KeyedStore.find_sort_append s.checks.ordered (hid ▸ hnone) k

theorem approve_revision_change {definition : AutomationDefinitionV1} {preview : String}
    (h : approve_revision s token id definition preview = .ok s') :
    Reduces s s' token (.approve_revision id definition preview) := by
  simp only [approve_revision, bind_eq_ok, require_record_eq_ok, expect_transition_eq_ok,
    refuse_transition_eq_ok, construct_eq_ok, Checked.make_eq_ok, not_not] at h
  obtain ⟨r, hr, draft, hdraft, _, hbody, _, hid, _, _, _, hadvance, r', hnew, h⟩ := h
  have hid' : AutomationRecordV1.automation_id r' = id := by
    rw [automation_id_of_definition (d := definition) (by rw [hnew]), hid]
  refine replaced hr hid' (.approve id preview definition draft hdraft hbody ?_ hnew) h
  intro e he
  simpa [he] using hadvance

theorem stage_revision_change {body : AutomationDefinitionBodyV1}
    (h : stage_revision s token id body = .ok s') :
    Reduces s s' token (.stage_revision id body) := by
  simp only [stage_revision, bind_eq_ok, require_record_eq_ok, expect_transition_eq_ok,
    refuse_transition_eq_ok, construct_eq_ok, Checked.make_eq_ok, not_or] at h
  obtain ⟨r, hr, definition, hdefinition, _, ⟨hcanceled, hpurging, _⟩, _, _, _, _, r', hnew, h⟩ := h
  have hid : AutomationRecordV1.automation_id r' = id := by
    rw [automation_id_of_definition (d := definition) (by rw [hnew]; exact hdefinition),
      ← automation_id_of_definition hdefinition, find_record_id hr]
  exact replaced hr hid
    (.stage id body ⟨hcanceled, hpurging⟩ (by rw [hdefinition]; rfl) hnew) h

theorem pause_automation_change (h : pause_automation s token id = .ok s') :
    Reduces s s' token (.pause_automation id) := by
  simp only [pause_automation, bind_eq_ok, require_record_eq_ok, refuse_transition_eq_ok,
    construct_eq_ok, Checked.make_eq_ok] at h
  obtain ⟨r, hr, _, hstatus, r', hnew, h⟩ := h
  have hid := kept_record_id (r := r) hr (by rw [hnew]) (by rw [hnew]) (by rw [hnew])
  refine replaced hr hid (.pause id ?_ hnew) h
  by_cases hactive : r.val.status = .active
  · exact .inl hactive
  · exact .inr (not_not.mp fun hne => hstatus ⟨hactive, hne⟩)

theorem resume_automation_change (h : resume_automation s token id = .ok s') :
    Reduces s s' token (.resume_automation id) := by
  simp only [resume_automation, bind_eq_ok, require_record_eq_ok, refuse_transition_eq_ok,
    construct_eq_ok, Checked.make_eq_ok, not_or, not_not, Option.not_isSome_iff_eq_none] at h
  obtain ⟨r, hr, _, hstatus, _, ⟨hidle, hneeds⟩, r', hnew, h⟩ := h
  have hid := kept_record_id (r := r) hr (by rw [hnew]) (by rw [hnew]) (by rw [hnew])
  exact replaced hr hid (.resume id hstatus hidle hneeds hnew) h

theorem cancel_automation_change (h : cancel_automation s token id = .ok s') :
    Reduces s s' token (.cancel_automation id) := by
  simp only [cancel_automation, bind_eq_ok, require_record_eq_ok, refuse_transition_eq_ok,
    construct_eq_ok, Checked.make_eq_ok, not_or] at h
  obtain ⟨r, hr, _, hstatus, r', hnew, h⟩ := h
  have hid := kept_record_id (r := r) hr (by rw [hnew]) (by rw [hnew]) (by rw [hnew])
  exact replaced hr hid (.cancel id hstatus hnew) h

theorem begin_purge_change {manifest : PurgeOwnershipManifestV1} {preview : String}
    (hmanifest : manifest.val.automation_id = id)
    (h : begin_purge s token id manifest = .ok s') :
    Reduces s s' token (.begin_purge id manifest preview) := by
  simp only [begin_purge, bind_eq_ok, require_record_eq_ok, refuse_transition_eq_ok,
    asserted_eq_ok, construct_eq_ok, Checked.make_eq_ok, not_or, not_not,
    Option.not_isSome_iff_eq_none] at h
  obtain ⟨r, hr, _, ⟨hstatus, hidle⟩, _, _, _, _, r', hnew, h⟩ := h
  have hid : AutomationRecordV1.automation_id r' = id := by
    simp [AutomationRecordV1.automation_id, AutomationRecordFields.automation_id, hnew, hmanifest]
  exact replaced hr hid (.begin_purge id preview manifest hstatus hidle hnew) h

theorem start_purge_object_change {object_id : String}
    (h : start_purge_object s token id object_id = .ok s') :
    Reduces s s' token (.start_purge_object id object_id) := by
  simp only [start_purge_object, bind_eq_ok, require_record_eq_ok, refuse_transition_eq_ok,
    asserted_eq_ok, not_not, Bool.not_eq_true, Option.isSome_eq_false_iff,
    Option.isNone_iff_eq_none] at h
  obtain ⟨r, hr, _, hstatus, manifest, hmanifest, _, hknown, h⟩ := h
  cases hactive : r.val.purge_active_object_id with
  | some active =>
    simp only [hactive, bind_eq_ok, refuse_transition_eq_ok, not_not] at h
    obtain ⟨_, rfl, h⟩ := h
    exact replaced hr (find_record_id hr)
      (.restart_object id active hstatus hknown hactive rfl) h
  | none =>
    simp only [hactive, bind_eq_ok, refuse_transition_eq_ok, construct_eq_ok, Checked.make_eq_ok,
      not_or, not_not] at h
    obtain ⟨_, hpending, r', hnew, h⟩ := h
    have hid := kept_record_id (r := r) hr (by rw [hnew]) (by rw [hnew]) (by rw [hnew])
    exact replaced hr hid
      (.start_object id object_id manifest hstatus hmanifest hknown hactive hpending hnew) h

theorem record_purge_progress_change {object_id : String} {outcome : PurgeCleanupOutcome}
    (h : record_purge_progress s token id object_id outcome = .ok s') :
    Reduces s s' token (.record_purge_progress id object_id outcome) := by
  simp only [record_purge_progress, bind_eq_ok, require_record_eq_ok, refuse_transition_eq_ok,
    not_or, not_not, ite_eq_ok, construct_eq_ok, Checked.make_eq_ok, asserted_eq_ok] at h
  obtain ⟨r, hr, _, ⟨hstatus, hactive⟩, h⟩ := h
  rcases h with ⟨rfl, r', hnew, h⟩ | ⟨_, manifest, hmanifest, o, ho, _, rfl, r', hnew, h⟩
  all_goals
    have hid := kept_record_id (r := r) hr (by rw [hnew]) (by rw [hnew]) (by rw [hnew])
  · exact replaced hr hid (.object_unknown id object_id hstatus hactive hnew) h
  · exact replaced hr hid
      (.object_confirmed id object_id manifest o hstatus hactive hmanifest ho hnew) h

theorem finish_purge_change {purged_at : String}
    (h : finish_purge s token id purged_at = .ok s') :
    Reduces s s' token (.finish_purge id purged_at) := by
  simp only [finish_purge, bind_eq_ok, require_record_eq_ok, refuse_transition_eq_ok,
    asserted_eq_ok, construct_eq_ok, AutomationTombstoneV1.create, Checked.make_eq_ok, not_or,
    not_not, Option.not_isSome_iff_eq_none] at h
  obtain ⟨r, hr, _, hstatus, manifest, hmanifest, _, ⟨hidle, hknown, hconfirmed⟩, t, ht, h⟩ := h
  refine ⟨.finish id purged_at r manifest t hr hstatus hmanifest hidle hknown hconfirmed
    (by rw [ht]) (by rw [h]) fun k => ?_, by rw [h], by rw [h]⟩
  rw [find_record, h, KeyedStore.sort_of_ordered (KeyedStore.ordered_remove s.checks.ordered id)]
  exact KeyedStore.find_remove s.val.records k id

theorem claim_occurrence_change {authority : BackgroundOccurrenceAuthorityV1}
    (h : claim_occurrence s token authority = .ok s') :
    Reduces s s' token (.claim_occurrence authority) := by
  simp only [claim_occurrence, bind_eq_ok, require_record_eq_ok, refuse_transition_eq_ok,
    asserted_eq_ok, construct_eq_ok, Checked.make_eq_ok, not_or, not_not,
    Option.not_isSome_iff_eq_none] at h
  obtain ⟨r, hr, _, hstatus, _, ⟨hidle, hfree⟩, d, hdefinition, _, ⟨_, hdigest, _⟩, _, hindex,
    expected, hidentity, _, rfl, _, _, _, _, _, _, r', hnew, h⟩ := h
  have hid := kept_record_id (r := r) hr (by rw [hnew]) (by rw [hnew]) (by rw [hnew])
  refine replaced (m := .claim_occurrence authority) hr hid
    (.claim authority d hstatus ?_ hidle hdefinition hindex hdigest hidentity hnew) h
  intro q hq
  by_contra hclaim
  exact hfree (List.any_eq_true.mpr ⟨q, hq, Option.isSome_iff_ne_none.mpr hclaim⟩)

theorem require_exact_claim_eq_ok {digest : String} {claim : BackgroundOccurrenceAuthorityV1} :
    require_exact_claim s id digest = .ok (r, claim) ↔ find_record s id = some r ∧
      r.val.active_claim = some claim ∧ claim.val.authority_digest = digest := by
  simp only [require_exact_claim, bind_eq_ok, require_record_eq_ok, expect_transition_eq_ok,
    refuse_transition_eq_ok, pure_eq_ok, not_not, Prod.mk.injEq]
  constructor
  · rintro ⟨q, hq, c, hc, _, hdigest, rfl, rfl⟩
    exact ⟨hq, hc, hdigest⟩
  · rintro ⟨hr, hclaim, hdigest⟩
    exact ⟨r, hr, claim, hclaim, (), hdigest, rfl, rfl⟩

theorem mark_dispatched_change {digest process : String}
    (h : mark_dispatched s token id digest process = .ok s') :
    Reduces s s' token (.mark_dispatched id digest process) := by
  simp only [mark_dispatched, bind_eq_ok, Prod.exists, require_exact_claim_eq_ok,
    refuse_transition_eq_ok, construct_eq_ok, Checked.make_eq_ok, not_not] at h
  obtain ⟨r, claim, ⟨hr, hclaim, hdigest⟩, _, hphase, r', hnew, h⟩ := h
  have hid := kept_record_id (r := r) hr (by rw [hnew]) (by rw [hnew]) (by rw [hnew])
  exact replaced hr hid (.dispatch id digest process claim hclaim hdigest hphase hnew) h

theorem mark_running_change {digest process : String}
    (h : mark_running s token id digest process = .ok s') :
    Reduces s s' token (.mark_running id digest process) := by
  simp only [mark_running, bind_eq_ok, Prod.exists, require_exact_claim_eq_ok,
    refuse_transition_eq_ok, construct_eq_ok, Checked.make_eq_ok, not_not] at h
  obtain ⟨r, claim, ⟨hr, hclaim, hdigest⟩, _, hphase, _, _, r', hnew, h⟩ := h
  have hid := kept_record_id (r := r) hr (by rw [hnew]) (by rw [hnew]) (by rw [hnew])
  exact replaced hr hid (.run id digest process claim hclaim hdigest hphase hnew) h

theorem record_occurrence_outcome_change {digest : String} {summary : OccurrenceSummaryV1}
    (h : record_occurrence_outcome s token id digest summary = .ok s') :
    Reduces s s' token (.record_occurrence_outcome id digest summary) := by
  simp only [record_occurrence_outcome, bind_eq_ok, Prod.exists, require_exact_claim_eq_ok,
    asserted_eq_ok, refuse_transition_eq_ok, ite_eq_ok, construct_eq_ok, Checked.make_eq_ok,
    Bool.not_eq_false, not_and, not_le] at h
  obtain ⟨r, claim, ⟨hr, hclaim, hdigest⟩, phase, hphase, _, hmatches, _, hcloses, h⟩ := h
  rcases h with ⟨hunresolved, _, _, r', hnew, h⟩ | ⟨_, _, hsafe, _, hroom, r', hnew, h⟩
  all_goals
    have hid := kept_record_id (r := r) hr (by rw [hnew]) (by rw [hnew]) (by rw [hnew])
  · exact replaced hr hid
      (.unresolve id digest summary claim hclaim hdigest hmatches hunresolved hnew) h
  · exact replaced hr hid
      (.close id digest summary claim phase hclaim hdigest hphase hmatches (hcloses hsafe) hroom
        hnew) h

/-- Every accepted mutation is one change of the snapshot. -/
theorem handle_change {action : AutomationMutationV1} (h : handle s action = .ok s') :
    Reduces s s' action.val.next_snapshot_token action.val.mutation := by
  obtain ⟨_, h⟩ := handle_eq_ok.mp h
  have hchecked := action.valid
  simp only [AutomationMutationFields.post_init, bind_eq_ok] at hchecked
  obtain ⟨_, _, hchecked⟩ := hchecked
  cases hm : action.val.mutation with
  | create_proposal body => exact create_proposal_change (by simpa [hm, reduce] using h)
  | approve_revision id d preview => exact approve_revision_change (by simpa [hm, reduce] using h)
  | stage_revision id body => exact stage_revision_change (by simpa [hm, reduce] using h)
  | pause_automation id => exact pause_automation_change (by simpa [hm, reduce] using h)
  | resume_automation id => exact resume_automation_change (by simpa [hm, reduce] using h)
  | cancel_automation id => exact cancel_automation_change (by simpa [hm, reduce] using h)
  | begin_purge id manifest preview =>
    simp only [hm, AutomationMutationFields.check_mutation, bind_eq_ok, Py.refuse_value_eq_ok,
      not_not] at hchecked
    obtain ⟨_, _, _, hmanifest, _⟩ := hchecked
    exact begin_purge_change hmanifest (by simpa [hm, reduce] using h)
  | start_purge_object id o => exact start_purge_object_change (by simpa [hm, reduce] using h)
  | record_purge_progress id o outcome =>
    exact record_purge_progress_change (by simpa [hm, reduce] using h)
  | finish_purge id purged_at => exact finish_purge_change (by simpa [hm, reduce] using h)
  | claim_occurrence authority => exact claim_occurrence_change (by simpa [hm, reduce] using h)
  | mark_dispatched id digest process =>
    exact mark_dispatched_change (by simpa [hm, reduce] using h)
  | mark_running id digest process => exact mark_running_change (by simpa [hm, reduce] using h)
  | record_occurrence_outcome id digest summary =>
    exact record_occurrence_outcome_change (by simpa [hm, reduce] using h)

end Changes

/-! ### Invariants of the records -/

section Records

variable {P : AutomationSnapshotV1 → AutomationRecordV1 → Prop} {action : AutomationMutationV1}

/-- A record of the new snapshot was there, or is a fresh proposal, or is the
    changed one. -/
theorem SnapshotChange.record_origin {m : AutomationMutation} {id : String}
    {r' : AutomationRecordV1} (h : SnapshotChange s s' m) (hr' : find_record s' id = some r') :
    find_record s id = some r' ∨
    (∃ body : AutomationDefinitionBodyV1, m = .create_proposal body ∧ id = body.val.automation_id ∧
      r'.val.definition = none ∧ r'.val.active_claim = none) ∨
    id = m.automation_id ∧ ∃ r, find_record s id = some r ∧ RecordChange s r r' m := by
  cases h with
  | create body q _ hnew _ _ hfound =>
    rw [hfound] at hr'
    split at hr'
    · rename_i hid
      obtain rfl := Option.some.inj hr'
      exact .inr (.inl ⟨body, rfl, hid, by rw [hnew], by rw [hnew]⟩)
    · exact .inl hr'
  | change _ r q hr _ hrecord _ hfound =>
    rw [hfound] at hr'
    split at hr'
    · rename_i hid
      obtain rfl := Option.some.inj hr'
      exact .inr (.inr ⟨hid, r, hid ▸ hr, hrecord⟩)
    · exact .inl hr'
  | finish i _ r _ _ _ _ _ _ _ _ _ _ hfound =>
    rw [hfound] at hr'
    split at hr'
    · cases hr'
    · exact .inl hr'

/-- A property of single records holds after a mutation when a fresh proposal
    has it, a change keeps it, and the other records do not lose it. -/
theorem records_step (h : handle s action = .ok s') (hs : ∀ id r, find_record s id = some r → P s r)
    (hcreate : ∀ r' : AutomationRecordV1, r'.val.definition = none → r'.val.active_claim = none →
      P s' r')
    (hchange : ∀ r r', find_record s action.val.mutation.automation_id = some r →
      RecordChange s r r' action.val.mutation → P s r → P s' r')
    (hframe : ∀ r, P s r → P s' r) :
    ∀ id r, find_record s' id = some r → P s' r := by
  intro id r' hr'
  rcases (handle_change h).change.record_origin hr' with
    hsame | ⟨_, _, _, hdefinition, hclaim⟩ | ⟨rfl, r, hr, hrecord⟩
  · exact hframe r' (hs id r' hsame)
  · exact hcreate r' hdefinition hclaim
  · exact hchange r r' hr hrecord (hs _ r hr)

theorem records_of_empty (h : s.val.is_empty) (id : String) : find_record s id = none := by
  simp [find_record, KeyedStore.find, h.1]

end Records

/-! ### Accepting a mutation -/

theorem fresh_token (t : String) : ∃ u : String, 16 ≤ u.toList.length ∧ u ≠ t := by
  by_cases h : t = "snapshot-token-a"
  · exact ⟨"snapshot-token-b", by decide, by rw [h]; decide⟩
  · exact ⟨"snapshot-token-a", by decide, fun heq => h heq.symm⟩

/-- Send a mutation of the current snapshot to the controller. -/
def send (s : AutomationSnapshotV1) (next_token : String) (m : AutomationMutation) :
    Controlled AutomationSnapshotV1 := do
  let action ← construct <| Checked.make {
    expected_snapshot_token := s.val.snapshot_token
    next_snapshot_token := next_token
    mutation := m }
  handle s action

/-- A mutation is accepted when its own fields are, under a fresh token, and it
    can be reduced. -/
theorem send_eq_ok {m : AutomationMutation} : send s token m = .ok s' ↔
    AutomationMutationFields.check_mutation m = .ok () ∧ 16 ≤ token.toList.length ∧
      token ≠ s.val.snapshot_token ∧ reduce s token m = .ok s' := by
  simp only [send, bind_eq_ok, construct_eq_ok, Checked.make_eq_ok]
  constructor
  · rintro ⟨action, haction, h⟩
    have hvalid := action.valid
    simp only [AutomationMutationFields.post_init, haction, bind_eq_ok, Py.refuse_value_eq_ok,
      AutomationMutationFields.require_mutation_tokens, not_lt, exists_const] at hvalid
    obtain ⟨⟨_, hlength, hfresh⟩, hm⟩ := hvalid
    obtain ⟨_, hreduce⟩ := handle_eq_ok.mp h
    rw [haction] at hreduce
    exact ⟨hm, hlength, fun heq => hfresh heq.symm, hreduce⟩
  · rintro ⟨hm, hlength, hfresh, hreduce⟩
    have hvalid : AutomationMutationFields.post_init ⟨s.val.snapshot_token, token, m⟩ = .ok () := by
      have htoken := s.checks.token
      simp only [AutomationMutationFields.post_init,
        AutomationMutationFields.require_mutation_tokens, bind_eq_ok, Py.refuse_value_eq_ok,
        exists_const, not_lt]
      exact ⟨⟨htoken, hlength, hfresh.symm⟩, hm⟩
    exact ⟨⟨_, hvalid⟩, rfl, handle_eq_ok.mpr ⟨rfl, hreduce⟩⟩

/-- What is sent is one mutation of the controller. -/
theorem handle_of_send {m : AutomationMutation} (h : send s token m = .ok s') :
    ∃ action : AutomationMutationV1, action.val.mutation = m ∧
      action.val.next_snapshot_token = token ∧ handle s action = .ok s' := by
  simp only [send, bind_eq_ok, construct_eq_ok, Checked.make_eq_ok] at h
  obtain ⟨action, haction, h⟩ := h
  exact ⟨action, by rw [haction], by rw [haction], h⟩
