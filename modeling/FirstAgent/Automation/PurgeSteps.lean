import FirstAgent.Automation.Purge

/-! # The Reconciler Finishes a Purge

    Each call of the reconciler takes one step of a purge: it starts the next
    pending object, or removes the one in progress and records the outcome, or
    finishes.  A call that stops before its mutation is recorded leaves the
    snapshot as it was, and the next one resumes from it.  While no removal
    reports an unknown outcome, the pending objects run out. -/

open Fallible Controlled

/-! ### The step -/

/-- What a purge step reports. -/
inductive PurgeCode where
  | purge_progress | purge_cleanup_unknown | purged
  deriving Repr, DecidableEq

/-- `_reconcile_purge`.  `delete` is the workspace repository's
    `delete_purge_object`. -/
def reconcile_purge (delete : PurgeOwnedObjectV1 → PurgeCleanupOutcome) (next_token : String)
    (now : UtcTime) (s : AutomationSnapshotV1) (record : AutomationRecordV1) :
    Controlled (PurgeCode × AutomationSnapshotV1) := do
  let manifest ← asserted record.val.purge_manifest
  if record.val.purge_cleanup_unknown_object_id.isSome then
    pure (.purge_cleanup_unknown, s)
  else
    match record.val.purge_active_object_id with
    | some active => do
      -- `next` finds it: the record's constructor keeps it in the manifest
      let expected ← asserted (manifest.val.objects.find? fun o => o.val.object_id = active)
      let outcome := delete expected
      let s' ← send s next_token
        (.record_purge_progress record.automation_id expected.val.object_id outcome)
      pure (if outcome = .cleanup_unknown then .purge_cleanup_unknown else .purge_progress, s')
    | none =>
      match manifest.val.objects.find? fun o =>
          o.val.object_id ∉ record.val.purge_confirmed_object_ids with
      | some pending => do
        let s' ← send s next_token
          (.start_purge_object record.automation_id pending.val.object_id)
        pure (.purge_progress, s')
      | none => do
        let s' ← send s next_token
          (.finish_purge record.automation_id (format_canonical_utc now))
        pure (.purged, s')

/-- One call of the reconciler: its repository, token and clock, and whether
    the process stops before the mutation is recorded. -/
structure PurgeCall where
  delete : PurgeOwnedObjectV1 → PurgeCleanupOutcome
  next_token : String
  now : UtcTime
  stops : Bool

/-- The call as far as the automation's purge goes. -/
def purge_call (id : String) (s : AutomationSnapshotV1) (c : PurgeCall) :
    Controlled AutomationSnapshotV1 :=
  match find_record s id with
  | none => .ok s
  | some record =>
    if c.stops ∨ record.val.status ≠ .purge_pending then .ok s
    else (·.2) <$> reconcile_purge c.delete c.next_token c.now s record

def purge_system (id : String) : System AutomationError AutomationSnapshotV1 PurgeCall where
  step := purge_call id

/-! ### The repository -/

structure OwnedObjectV1 where
  object_id : String
  kind : PurgeObjectKind
  identity_digest : String
  deriving Repr, DecidableEq

/-- `delete_purge_object` of the repository that owns these objects; the
    workspaces it may remove are the captured ones. -/
def delete_purge_object (owned : List OwnedObjectV1) (terminal_captured : List String)
    (allow_missing_after_intent : Bool) (expected : PurgeOwnedObjectV1) : PurgeCleanupOutcome :=
  match owned.find? fun o => o.object_id = expected.val.object_id with
  | none => if allow_missing_after_intent then expected.val.kind.confirming else .cleanup_unknown
  | some current =>
    if current.kind ≠ expected.val.kind ∨ current.identity_digest ≠ expected.val.identity_digest then
      .cleanup_unknown
    -- `delete_owned_object` of an object that is there
    else if current.kind = .occurrence_workspace ∧ current.object_id ∉ terminal_captured then
      .cleanup_unknown
    else if current.kind = .governed_external_reference then .unlinked
    else .cleaned

/-- A removal is confirmed by the outcome of the object's kind, or unknown. -/
theorem delete_purge_object_outcome (owned : List OwnedObjectV1) (terminal_captured : List String)
    (allow : Bool) (o : PurgeOwnedObjectV1) :
    delete_purge_object owned terminal_captured allow o = o.val.kind.confirming ∨
      delete_purge_object owned terminal_captured allow o = .cleanup_unknown := by
  unfold delete_purge_object
  split
  · split
    · exact .inl rfl
    · exact .inr rfl
  · rename_i current _
    by_cases hdrift : current.kind ≠ o.val.kind ∨ current.identity_digest ≠ o.val.identity_digest
    · exact .inr (if_pos hdrift)
    · rw [if_neg hdrift]
      rw [not_or, not_not, not_not] at hdrift
      rw [hdrift.1]
      split
      · exact .inr rfl
      · left
        cases o.val.kind <;> rfl

/-! ### What a step leaves to do -/

section Steps

variable {s s' : AutomationSnapshotV1} {r r' : AutomationRecordV1} {id token : String}
  {manifest : PurgeOwnershipManifestV1}

/-- The objects that are not confirmed. -/
def unconfirmed (manifest : PurgeOwnershipManifestV1) (confirmed : List String) : Nat :=
  manifest.val.object_ids.countP fun i => i ∉ confirmed

/-- The calls a purge still needs: two for each object, and one to finish. -/
def remaining_calls (r : AutomationRecordV1) : Nat :=
  match r.val.purge_manifest with
  | none => 0
  | some manifest => 2 * unconfirmed manifest r.val.purge_confirmed_object_ids +
      if r.val.purge_active_object_id.isSome then 0 else 1

theorem manifest_nodup (manifest : PurgeOwnershipManifestV1) : manifest.val.object_ids.Nodup :=
  (PyText.sorted_unique_iff.mp (manifest_sorted manifest)).imp ne_of_lt

/-- Confirming one more object leaves one fewer. -/
theorem unconfirmed_confirm {confirmed : List String} {i : String}
    (hi : i ∈ manifest.val.object_ids) (hfresh : i ∉ confirmed) :
    unconfirmed manifest confirmed =
      unconfirmed manifest ((confirmed ++ [i]).insertionSort (· ≤ ·)) + 1 := by
  have hnodup := manifest_nodup manifest
  have hperm := List.perm_cons_erase hi
  have hrest : ∀ j ∈ manifest.val.object_ids.erase i,
      (decide (j ∉ confirmed)) = decide (j ∉ (confirmed ++ [i]).insertionSort (· ≤ ·)) := by
    intro j hj
    have hne : j ≠ i := (hnodup.mem_erase_iff.mp hj).1
    simp [List.mem_insertionSort, hne]
  unfold unconfirmed
  rw [hperm.countP_eq, hperm.countP_eq, List.countP_cons, List.countP_cons,
    List.countP_congr fun j hj => by rw [hrest j hj]]
  simp [hfresh, List.mem_insertionSort]

/-- The next object exists while some are unconfirmed. -/
theorem pending_object {confirmed : List String} :
    (manifest.val.objects.find? fun o => o.val.object_id ∉ confirmed) = none ↔
      unconfirmed manifest confirmed = 0 := by
  rw [unconfirmed, List.countP_eq_zero, List.find?_eq_none]
  simp [PurgeOwnershipManifestFields.object_ids]

/-- A purging record is named by its manifest. -/
theorem purging_id (hr : find_record s id = some r) (hpurging : r.val.status = .purge_pending)
    (hmanifest : r.val.purge_manifest = some manifest) :
    manifest.val.automation_id = id ∧ PyText.is_opaque_id id = true := by
  have hstatus := r.checks.status
  simp only [AutomationRecordFields.check_status, hpurging, Py.refuse_value_eq_ok, not_or,
    Bool.not_eq_true, Option.isSome_eq_false_iff, Option.isNone_iff_eq_none] at hstatus
  obtain ⟨hdefinition, hdraft, _⟩ := hstatus
  have hid : manifest.val.automation_id = id := by
    rw [← find_record_id hr]
    simp [AutomationRecordV1.automation_id, AutomationRecordFields.automation_id, hdefinition,
      hdraft, hmanifest]
  have hvalid := manifest.valid
  simp only [PurgeOwnershipManifestFields.post_init, Py.require_opaque_id, bind_eq_ok,
    Py.refuse_value_eq_ok, Bool.not_eq_false] at hvalid
  obtain ⟨_, hid_ok, _⟩ := hvalid
  exact ⟨hid, hid ▸ hid_ok⟩

/-- A record whose purge has moved on is valid when the progress is. -/
theorem purging_fields_valid {confirmed : List String} {active unknown : Option String}
    (hpurging : r.val.status = .purge_pending) (hmanifest : r.val.purge_manifest = some manifest)
    (hprogress : AutomationRecordFields.ProgressValid { r.val with
      purge_confirmed_object_ids := confirmed
      purge_active_object_id := active
      purge_cleanup_unknown_object_id := unknown } manifest) :
    AutomationRecordFields.post_init { r.val with
      purge_confirmed_object_ids := confirmed
      purge_active_object_id := active
      purge_cleanup_unknown_object_id := unknown } = .ok () := by
  have hchecks := r.checks
  refine AutomationRecordFields.post_init_eq_ok.mpr { hchecks with purge := ?_ }
  have hcheck := AutomationRecordFields.check_progress_eq_ok.mpr hprogress
  simp only [AutomationRecordFields.check_purge, hpurging, hmanifest, bind_eq_ok,
    Py.refuse_value_eq_ok, Option.elim_some, ne_eq, not_true_eq_false, false_and, not_false_eq_true,
    exists_const, true_and]
  exact hcheck

/-- One step of a purge: the record has one call fewer to do, and nothing else
    has changed. -/
structure StepsOn (id : String) (s s' : AutomationSnapshotV1) (r r' : AutomationRecordV1) :
    Prop where
  found : find_record s' id = some r'
  status : r'.val.status = .purge_pending
  known : r'.val.purge_cleanup_unknown_object_id = none
  fewer : remaining_calls r = remaining_calls r' + 1
  tombstones : s'.val.tombstones = s.val.tombstones
  revision : s'.val.revision = s.val.revision + 1

theorem object_id_ok (o : PurgeOwnedObjectV1) : PyText.is_opaque_id o.val.object_id = true := by
  have hvalid := o.valid
  simp only [PurgeOwnedObjectFields.post_init, Py.require_opaque_id, bind_eq_ok,
    Py.refuse_value_eq_ok, Bool.not_eq_false] at hvalid
  obtain ⟨_, hid_ok, _⟩ := hvalid
  exact hid_ok

/-- A pending object can be started. -/
theorem start_sent (hr : find_record s id = some r) (hpurging : r.val.status = .purge_pending)
    (hmanifest : r.val.purge_manifest = some manifest)
    (hknown : r.val.purge_cleanup_unknown_object_id = none)
    (hidle : r.val.purge_active_object_id = none) {o : PurgeOwnedObjectV1}
    (ho : o ∈ manifest.val.objects) (hpending : o.val.object_id ∉ r.val.purge_confirmed_object_ids)
    (hlength : 16 ≤ token.toList.length) (hfresh : token ≠ s.val.snapshot_token)
    (hrevision : s.val.revision < 2 ^ 63 - 1) :
    ∃ s' r', send s token (.start_purge_object id o.val.object_id) = .ok s' ∧
      StepsOn id s s' r r' := by
  have hprogress := progress_checks hmanifest
  have hmem : o.val.object_id ∈ manifest.val.object_ids := List.mem_map_of_mem ho
  have hvalid : AutomationRecordFields.post_init { r.val with
      purge_active_object_id := some o.val.object_id } = .ok () := by
    refine purging_fields_valid hpurging hmanifest { hprogress with
      active := ?_, fresh := ?_, held := ?_ }
    · rintro i hi
      obtain rfl : o.val.object_id = i := by simpa using hi
      exact ⟨object_id_ok o, hmem⟩
    · rintro i hi
      obtain rfl : o.val.object_id = i := by simpa using hi
      exact hpending
    · intro i hi
      simp [hknown] at hi
  have hid : AutomationRecordV1.automation_id ⟨_, hvalid⟩ = id :=
    kept_record_id (r := r) hr rfl rfl rfl
  obtain ⟨s', hs'⟩ := replace_record_accepts (s := s) (r := r) ⟨_, hvalid⟩
    (by rw [hid]; exact hr) hlength hrevision fun h => h
  have hreduce : start_purge_object s token id o.val.object_id = .ok s' := by
    simp only [start_purge_object, bind_eq_ok, require_record_eq_ok, refuse_transition_eq_ok,
      asserted_eq_ok, not_not]
    refine ⟨r, hr, (), hpurging, manifest, hmanifest, (), by simp [hknown], ?_⟩
    simp only [hidle, bind_eq_ok, refuse_transition_eq_ok, construct_eq_ok, Checked.make_eq_ok]
    exact ⟨(), by simp [hmem, hpending], ⟨_, hvalid⟩, rfl, hs'⟩
  have hm : AutomationMutationFields.check_mutation
      (.start_purge_object id o.val.object_id) = .ok () := by
    simp only [AutomationMutationFields.check_mutation, Py.require_opaque_id, bind_eq_ok,
      Py.refuse_value_eq_ok, Bool.not_eq_false, exists_const]
    exact ⟨(purging_id hr hpurging hmanifest).2, object_id_ok o⟩
  have hwrite := replace_record_ok (s := s) (r := r) ⟨_, hvalid⟩ (by rw [hid]; exact hr) hs'
  refine ⟨s', ⟨_, hvalid⟩, send_eq_ok.mpr ⟨hm, hlength, hfresh, hreduce⟩, {
    found := by rw [hwrite.found, hid, if_pos rfl]
    status := hpurging
    known := hknown
    fewer := by simp [remaining_calls, hmanifest, hidle]
    tombstones := hwrite.tombstones
    revision := hwrite.revision }⟩

/-- The object in progress can be confirmed. -/
theorem confirm_sent (hr : find_record s id = some r) (hpurging : r.val.status = .purge_pending)
    (hmanifest : r.val.purge_manifest = some manifest) {o : PurgeOwnedObjectV1}
    (hfind : (manifest.val.objects.find? fun p => p.val.object_id = o.val.object_id) = some o)
    (hactive : r.val.purge_active_object_id = some o.val.object_id)
    (hlength : 16 ≤ token.toList.length) (hfresh : token ≠ s.val.snapshot_token)
    (hrevision : s.val.revision < 2 ^ 63 - 1) :
    ∃ s' r', send s token
        (.record_purge_progress id o.val.object_id o.val.kind.confirming) = .ok s' ∧
      StepsOn id s s' r r' := by
  have hprogress := progress_checks hmanifest
  have hmem : o.val.object_id ∈ manifest.val.object_ids := (hprogress.active _ hactive).2
  have hnew := hprogress.fresh _ hactive
  have hvalid : AutomationRecordFields.post_init { r.val with
      purge_confirmed_object_ids :=
        (r.val.purge_confirmed_object_ids ++ [o.val.object_id]).insertionSort (· ≤ ·)
      purge_active_object_id := none
      purge_cleanup_unknown_object_id := none } = .ok () := by
    refine purging_fields_valid hpurging hmanifest {
      ids := ?_, sorted := ?_, bound := ?_, active := by simp, unknown := by simp
      fresh := by simp, held := by simp }
    · intro i hi
      rcases List.mem_append.mp ((List.mem_insertionSort _).mp hi) with h | h
      · exact hprogress.ids i h
      · obtain rfl := List.mem_singleton.mp h
        exact object_id_ok o
    · -- the confirmed ids were in order, and the new one is not among them
      have hordered : KeyedStore.Ordered (fun i : String => i) r.val.purge_confirmed_object_ids := by
        simpa [KeyedStore.Ordered] using PyText.sorted_unique_iff.mp hprogress.sorted
      have hsorted := KeyedStore.ordered_sort_append hordered
        (x := o.val.object_id)
        (KeyedStore.find_none.mpr fun i hi (heq : i = o.val.object_id) => hnew (heq ▸ hi))
      rw [PyText.sorted_unique_iff]
      simpa [KeyedStore.Ordered, KeyedStore.sort] using hsorted
    · intro i hi
      rcases List.mem_append.mp ((List.mem_insertionSort _).mp hi) with h | h
      · exact hprogress.bound i h
      · obtain rfl := List.mem_singleton.mp h
        exact hmem
  have hid : AutomationRecordV1.automation_id ⟨_, hvalid⟩ = id :=
    kept_record_id (r := r) hr rfl rfl rfl
  obtain ⟨s', hs'⟩ := replace_record_accepts (s := s) (r := r) ⟨_, hvalid⟩
    (by rw [hid]; exact hr) hlength hrevision fun h => h
  have hreduce : record_purge_progress s token id o.val.object_id o.val.kind.confirming =
      .ok s' := by
    simp only [record_purge_progress, bind_eq_ok, require_record_eq_ok, refuse_transition_eq_ok,
      not_or, not_not, ite_eq_ok, construct_eq_ok, Checked.make_eq_ok, asserted_eq_ok]
    exact ⟨r, hr, (), ⟨hpurging, hactive⟩, .inr ⟨confirming_known _, manifest, hmanifest, o, hfind,
      (), rfl, ⟨_, hvalid⟩, rfl, hs'⟩⟩
  have hm : AutomationMutationFields.check_mutation
      (.record_purge_progress id o.val.object_id o.val.kind.confirming) = .ok () := by
    simp only [AutomationMutationFields.check_mutation, Py.require_opaque_id, bind_eq_ok,
      Py.refuse_value_eq_ok, Bool.not_eq_false, exists_const]
    exact ⟨(purging_id hr hpurging hmanifest).2, object_id_ok o⟩
  have hwrite := replace_record_ok (s := s) (r := r) ⟨_, hvalid⟩ (by rw [hid]; exact hr) hs'
  refine ⟨s', ⟨_, hvalid⟩, send_eq_ok.mpr ⟨hm, hlength, hfresh, hreduce⟩, {
    found := by rw [hwrite.found, hid, if_pos rfl]
    status := hpurging
    known := rfl
    fewer := ?_
    tombstones := hwrite.tombstones
    revision := hwrite.revision }⟩
  -- one object less is unconfirmed, and none is active any more
  simp only [remaining_calls, hmanifest, hactive, Option.isSome_some, if_true,
    unconfirmed_confirm hmem hnew, Option.isSome_none, Bool.false_eq_true, if_false]
  omega

/-- When no object is left, the confirmed ones are those of the manifest. -/
theorem all_confirmed (hmanifest : r.val.purge_manifest = some manifest)
    (hdone : unconfirmed manifest r.val.purge_confirmed_object_ids = 0) :
    r.val.purge_confirmed_object_ids = manifest.val.object_ids := by
  have hprogress := progress_checks hmanifest
  have hconfirmed := PyText.sorted_unique_iff.mp hprogress.sorted
  have hobjects := PyText.sorted_unique_iff.mp (manifest_sorted manifest)
  have hsame : ∀ i, i ∈ r.val.purge_confirmed_object_ids ↔ i ∈ manifest.val.object_ids := by
    intro i
    refine ⟨hprogress.bound i, fun hi => ?_⟩
    simpa using List.countP_eq_zero.mp hdone i hi
  have hperm := (List.perm_ext_iff_of_nodup (hconfirmed.imp ne_of_lt) (hobjects.imp ne_of_lt)).mpr
    hsame
  exact hperm.eq_of_pairwise (fun a b _ _ hab hba => absurd hba (lt_asymm hab)) hconfirmed hobjects

/-- The tombstone of a purge that ends at a time of four digits. -/
theorem tombstone_created (manifest : PurgeOwnershipManifestV1) {now : UtcTime}
    (hnow : 31525372800 ≤ now.seconds) :
    ∃ t : AutomationTombstoneV1, AutomationTombstoneV1.create {
        automation_id := manifest.val.automation_id
        purged_revision := manifest.val.automation_revision
        purged_at_utc := format_canonical_utc now } = .ok t ∧
      t.val.automation_id = manifest.val.automation_id := by
  have hvalid := manifest.valid
  simp only [PurgeOwnershipManifestFields.post_init, Py.require_opaque_id, Py.require_positive_int,
    bind_eq_ok, Py.refuse_value_eq_ok, not_or, not_lt, Bool.not_eq_false, exists_const] at hvalid
  obtain ⟨hid_ok, hrevision, _⟩ := hvalid
  have htime : UtcTime.parse (format_canonical_utc now) = some now := UtcTime.parse_format hnow
  let fields : AutomationTombstoneFields := {
    automation_id := manifest.val.automation_id
    purged_revision := manifest.val.automation_revision
    purged_at_utc := format_canonical_utc now }
  have hchecked : AutomationTombstoneFields.post_init { fields with
      tombstone_digest := digest_or fields.tombstone_digest fields.expected_digest } = .ok () := by
    simp only [AutomationTombstoneFields.post_init, Py.require_opaque_id, Py.require_positive_int,
      bind_eq_ok, Py.refuse_value_eq_ok, not_or, not_lt, Bool.not_eq_false, exists_const, not_not,
      parse_canonical_utc, Py.expect_value_eq_ok]
    exact ⟨hid_ok, hrevision, now, htime, rfl⟩
  exact ⟨⟨_, hchecked⟩, Checked.make_eq_ok.mpr rfl, rfl⟩

/-- A purge with nothing left to remove ends with its tombstone. -/
theorem finish_sent (hr : find_record s id = some r) (hpurging : r.val.status = .purge_pending)
    (hmanifest : r.val.purge_manifest = some manifest)
    (hknown : r.val.purge_cleanup_unknown_object_id = none)
    (hidle : r.val.purge_active_object_id = none)
    (hdone : unconfirmed manifest r.val.purge_confirmed_object_ids = 0) {now : UtcTime}
    (hnow : 31525372800 ≤ now.seconds) (hlength : 16 ≤ token.toList.length)
    (hfresh : token ≠ s.val.snapshot_token) (hrevision : s.val.revision < 2 ^ 63 - 1) :
    ∃ s' t, send s token (.finish_purge id (format_canonical_utc now)) = .ok s' ∧
      find_record s' id = none ∧ t.val.automation_id = id ∧
      s'.val.tombstones = KeyedStore.sort AutomationTombstoneV1.automation_id
        (keep_tombstones (s.val.tombstones ++ [t])) := by
  obtain ⟨hid, hid_ok⟩ := purging_id hr hpurging hmanifest
  obtain ⟨t, ht, htid⟩ := tombstone_created manifest hnow
  have hs := s.checks
  have hkept := keep_tombstones_sublist (s.val.tombstones ++ [t])
  -- no tombstone stands under the id of a record
  have hburied : KeyedStore.find AutomationTombstoneV1.automation_id t.automation_id
      s.val.tombstones = none := by
    refine KeyedStore.find_none.mpr fun u hu heq => ?_
    have hrecord : id ∈ s.val.record_ids :=
      find_record_id hr ▸ List.mem_map_of_mem (find_record_mem hr)
    refine hs.disjoint id hrecord (List.mem_map.mpr ⟨u, hu, ?_⟩)
    rw [heq, AutomationTombstoneV1.automation_id, htid, hid]
  have hnodup : ((keep_tombstones (s.val.tombstones ++ [t])).map
      AutomationTombstoneV1.automation_id).Nodup :=
    (hkept.map _).nodup (KeyedStore.nodup_append hs.tombstones_ordered hburied)
  have hordered := KeyedStore.ordered_remove hs.ordered id
  have hvalid : AutomationSnapshotFields.post_init {
      revision := s.val.revision + 1
      snapshot_token := token
      records := KeyedStore.sort AutomationRecordV1.automation_id
        (KeyedStore.remove AutomationRecordV1.automation_id id s.val.records)
      tombstones := KeyedStore.sort AutomationTombstoneV1.automation_id
        (keep_tombstones (s.val.tombstones ++ [t])) } = .ok () := by
    rw [KeyedStore.sort_of_ordered hordered]
    refine AutomationSnapshotFields.post_init_eq_ok.mpr {
      revision := ⟨by have := hs.revision.1; dsimp only; omega, by dsimp only; omega⟩
      token := hlength
      records := le_trans (List.length_filter_le _ _) hs.records
      tombstones := ?_
      ordered := hordered
      tombstones_ordered := KeyedStore.ordered_sort hnodup
      disjoint := ?_
      nonterminal := le_trans (List.Sublist.countP_le List.filter_sublist) hs.nonterminal }
    · rw [(KeyedStore.sort_perm _).length_eq]
      exact keep_tombstones_length (by have := hs.tombstones; simp; omega)
    · intro i hi hti
      obtain ⟨q, hq, rfl⟩ := List.mem_map.mp hi
      obtain ⟨u, hu, heq⟩ := List.mem_map.mp hti
      obtain ⟨hq, hne⟩ := List.mem_filter.mp hq
      rcases List.mem_append.mp (hkept.subset (KeyedStore.mem_sort.mp hu)) with hu | hu
      · exact hs.disjoint _ (List.mem_map_of_mem hq) (List.mem_map.mpr ⟨u, hu, heq⟩)
      · obtain rfl := List.mem_singleton.mp hu
        have : q.automation_id ≠ id := by simpa using hne
        rw [AutomationTombstoneV1.automation_id, htid, hid] at heq
        exact this heq.symm
  have hreduce : finish_purge s token id (format_canonical_utc now) = .ok ⟨_, hvalid⟩ := by
    simp only [finish_purge, bind_eq_ok, require_record_eq_ok, refuse_transition_eq_ok,
      asserted_eq_ok, construct_eq_ok, not_or, not_not]
    refine ⟨r, hr, (), hpurging, manifest, hmanifest, (),
      ⟨by simp [hidle], by simp [hknown], all_confirmed hmanifest hdone⟩, t, ?_,
      Checked.make_eq_ok.mpr rfl⟩
    rw [← hid]
    exact ht
  have hm : AutomationMutationFields.check_mutation
      (.finish_purge id (format_canonical_utc now)) = .ok () := by
    simp only [AutomationMutationFields.check_mutation, Py.require_opaque_id, bind_eq_ok,
      Py.refuse_value_eq_ok, Bool.not_eq_false, exists_const, parse_canonical_utc,
      Py.expect_value_eq_ok]
    exact ⟨hid_ok, now, UtcTime.parse_format hnow, rfl⟩
  have hgone : KeyedStore.find AutomationRecordV1.automation_id id
      (KeyedStore.sort AutomationRecordV1.automation_id
        (KeyedStore.remove AutomationRecordV1.automation_id id s.val.records)) = none := by
    rw [KeyedStore.sort_of_ordered hordered, KeyedStore.find_remove, if_pos rfl]
  exact ⟨⟨_, hvalid⟩, t, send_eq_ok.mpr ⟨hm, hlength, hfresh, hreduce⟩, hgone, htid.trans hid, rfl⟩

end Steps

/-! ### Calls -/

section Calls

variable {s s' : AutomationSnapshotV1} {r : AutomationRecordV1} {id : String} {c : PurgeCall}
  {calls : List PurgeCall}

/-- The call's removals report the outcome of the kind, its clock shows a year
    of four digits, and its token is new. -/
structure CleanCall (s : AutomationSnapshotV1) (c : PurgeCall) : Prop where
  confirms : ∀ o, c.delete o = o.val.kind.confirming
  clock : 31525372800 ≤ c.now.seconds
  length : 16 ≤ c.next_token.toList.length
  fresh : c.next_token ≠ s.val.snapshot_token

/-- The purge has ended with the automation's tombstone. -/
def Tombstoned (id : String) (s s' : AutomationSnapshotV1) : Prop :=
  find_record s' id = none ∧ ∃ t : AutomationTombstoneV1, t.val.automation_id = id ∧
    s'.val.tombstones = KeyedStore.sort AutomationTombstoneV1.automation_id
      (keep_tombstones (s.val.tombstones ++ [t]))

/-- One call that does not stop takes one step of the purge. -/
theorem purge_call_steps (hr : find_record s id = some r) (hpurging : r.val.status = .purge_pending)
    (hknown : r.val.purge_cleanup_unknown_object_id = none) (hc : CleanCall s c)
    (hgoes : c.stops = false) (hrevision : s.val.revision < 2 ^ 63 - 1) :
    ∃ s', purge_call id s c = .ok s' ∧ ((∃ r', StepsOn id s s' r r') ∨ Tombstoned id s s') := by
  obtain ⟨manifest, hmanifest⟩ := purging_manifest hpurging
  have hid : r.automation_id = id := find_record_id hr
  -- the call is one step of the reconciler
  have step (code : PurgeCode) {s' : AutomationSnapshotV1}
      (h : reconcile_purge c.delete c.next_token c.now s r = .ok (code, s')) :
      purge_call id s c = .ok s' := by
    simp [purge_call, hr, hgoes, hpurging, h]
  cases hactive : r.val.purge_active_object_id with
  | some i =>
    have hprogress := progress_checks hmanifest
    obtain ⟨o, ho, rfl⟩ := List.mem_map.mp (hprogress.active i hactive).2
    have hfind : (manifest.val.objects.find? fun p => p.val.object_id = o.val.object_id) = some o := by
      cases hsome : manifest.val.objects.find? fun p => p.val.object_id = o.val.object_id with
      | none => simpa using List.find?_eq_none.mp hsome o ho
      | some p =>
        have heq : p.val.object_id = o.val.object_id := by simpa using List.find?_some hsome
        rw [object_of_id (manifest_sorted manifest) (List.mem_of_find?_eq_some hsome) ho heq]
    obtain ⟨s', r', hsend, hsteps⟩ := confirm_sent hr hpurging hmanifest hfind hactive hc.length
      hc.fresh hrevision
    refine ⟨s', step .purge_progress ?_, .inl ⟨r', hsteps⟩⟩
    simp only [reconcile_purge, bind_eq_ok, asserted_eq_ok]
    refine ⟨manifest, hmanifest, ?_⟩
    simp only [hknown, Option.isSome_none, Bool.false_eq_true, if_false, hactive, bind_eq_ok,
      asserted_eq_ok, hc.confirms, pure_eq_ok]
    exact ⟨o, hfind, s', by rw [hid]; exact hsend, by simp [confirming_known]⟩
  | none =>
    cases hpending : manifest.val.objects.find? fun o =>
        o.val.object_id ∉ r.val.purge_confirmed_object_ids with
    | some o =>
      have hunconfirmed : o.val.object_id ∉ r.val.purge_confirmed_object_ids := by
        simpa using List.find?_some hpending
      obtain ⟨s', r', hsend, hsteps⟩ := start_sent hr hpurging hmanifest hknown hactive
        (List.mem_of_find?_eq_some hpending) hunconfirmed hc.length hc.fresh hrevision
      refine ⟨s', step .purge_progress ?_, .inl ⟨r', hsteps⟩⟩
      simp only [reconcile_purge, bind_eq_ok, asserted_eq_ok]
      refine ⟨manifest, hmanifest, ?_⟩
      simp only [hknown, Option.isSome_none, Bool.false_eq_true, if_false, hactive, hpending,
        bind_eq_ok, pure_eq_ok]
      exact ⟨s', by rw [hid]; exact hsend, rfl⟩
    | none =>
      obtain ⟨s', t, hsend, hgone, ht, htombs⟩ := finish_sent hr hpurging hmanifest hknown hactive
        (pending_object.mp hpending) hc.clock hc.length hc.fresh hrevision
      refine ⟨s', step .purged ?_, .inr ⟨hgone, t, ht, htombs⟩⟩
      simp only [reconcile_purge, bind_eq_ok, asserted_eq_ok]
      refine ⟨manifest, hmanifest, ?_⟩
      simp only [hknown, Option.isSome_none, Bool.false_eq_true, if_false, hactive, hpending,
        bind_eq_ok, pure_eq_ok]
      exact ⟨s', by rw [hid]; exact hsend, rfl⟩

/-- A purge that goes on needs at least one more call. -/
theorem remaining_pos (hpurging : r.val.status = .purge_pending) : 0 < remaining_calls r := by
  obtain ⟨manifest, hmanifest⟩ := purging_manifest hpurging
  have hprogress := progress_checks hmanifest
  simp only [remaining_calls, hmanifest]
  cases hactive : r.val.purge_active_object_id with
  | none => simp
  | some i =>
    have hpos : 0 < unconfirmed manifest r.val.purge_confirmed_object_ids :=
      List.countP_pos_iff.mpr ⟨i, (hprogress.active i hactive).2,
        by simpa using hprogress.fresh i hactive⟩
    simp only [Option.isSome_some, if_true]
    omega

/-- Nothing is left to do for an automation that is gone. -/
theorem calls_of_gone (hgone : find_record s id = none) :
    (purge_system id).run s calls = .ok s := by
  induction calls with
  | nil => rfl
  | cons c calls ih =>
    exact System.run_cons.mpr ⟨s, by simp [purge_system, purge_call, hgone], ih⟩

/-- As many calls as are left end the purge, however often a call stops. -/
theorem purge_ends (hr : find_record s id = some r) (hpurging : r.val.status = .purge_pending)
    (hknown : r.val.purge_cleanup_unknown_object_id = none)
    (hclean : (purge_system id).Along CleanCall s calls)
    (henough : remaining_calls r ≤ calls.countP fun c => !c.stops)
    (hrevision : s.val.revision + remaining_calls r ≤ 2 ^ 63 - 1) :
    ∃ s', (purge_system id).run s calls = .ok s' ∧ Tombstoned id s s' := by
  induction calls generalizing s r with
  | nil =>
    have := remaining_pos hpurging
    simp only [List.countP_nil] at henough
    omega
  | cons c calls ih =>
    have hpos := remaining_pos hpurging
    cases hgoes : c.stops with
    | true =>
      -- nothing was recorded: the next call resumes from the same snapshot
      have hcall : purge_call id s c = .ok s := by simp [purge_call, hr, hgoes]
      obtain ⟨s', hs', hend⟩ := ih hr hpurging hknown (hclean.2 s hcall)
        (by simpa [hgoes] using henough) hrevision
      exact ⟨s', System.run_cons.mpr ⟨s, hcall, hs'⟩, hend⟩
    | false =>
      have henough : remaining_calls r ≤ (calls.countP fun c => !c.stops) + 1 := by
        simpa [hgoes] using henough
      obtain ⟨t, ht, hsteps⟩ := purge_call_steps hr hpurging hknown hclean.1 hgoes (by omega)
      rcases hsteps with ⟨r', hsteps⟩ | hend
      · have hfewer := hsteps.fewer
        have hgrown := hsteps.revision
        obtain ⟨s', hs', hgone, tomb, htomb, htombs⟩ := ih hsteps.found hsteps.status hsteps.known
          (hclean.2 t ht) (by omega) (by omega)
        exact ⟨s', System.run_cons.mpr ⟨t, ht, hs'⟩, hgone, tomb, htomb,
          hsteps.tombstones ▸ htombs⟩
      · exact ⟨t, System.run_cons.mpr ⟨t, ht, calls_of_gone hend.1⟩, hend⟩

end Calls

/-! ### Purges -/

section Purges

variable {s₀ s : AutomationSnapshotV1} {actions : List AutomationMutationV1}

/-- **A purge is complete**: in every run from an empty store a tombstone is
    written only after each object of the manifest was started and then
    confirmed, once, by the outcome of its kind; a purge under way has one
    object in progress at most, starts no object again whose outcome was
    unknown, and counts it only once it is confirmed; and unless an outcome is
    unknown the reconciler's calls end the purge, from whatever progress. -/
theorem purge_completeness (hempty : s₀.val.is_empty)
    (hrun : automation_system.run s₀ actions = .ok s) :
    (∀ action s', handle s action = .ok s' → ∀ t ∈ s'.val.tombstones, t ∉ s.val.tombstones →
      ∃ manifest log, purge_log t.val.automation_id actions = some (manifest, log) ∧
        ∀ o ∈ manifest.val.objects,
          Before (.start_purge_object t.val.automation_id o.val.object_id)
            (.record_purge_progress t.val.automation_id o.val.object_id o.val.kind.confirming) log ∧
          log.count (.record_purge_progress t.val.automation_id o.val.object_id
            o.val.kind.confirming) = 1) ∧
    (∀ id r, find_record s id = some r → r.val.status = .purge_pending →
      ∃ manifest log, purge_log id actions = some (manifest, log) ∧
        PurgeProgress id manifest log r ∧
        ∀ i j, .start_purge_object id i ∈ log → .start_purge_object id j ∈ log →
          i ∉ r.val.purge_confirmed_object_ids → j ∉ r.val.purge_confirmed_object_ids → i = j) ∧
    ∀ id r calls, find_record s id = some r → r.val.status = .purge_pending →
      r.val.purge_cleanup_unknown_object_id = none →
      (purge_system id).Along CleanCall s calls →
      remaining_calls r ≤ calls.countP (fun c => !c.stops) →
      s.val.revision + remaining_calls r ≤ 2 ^ 63 - 1 →
      ∃ s', (purge_system id).run s calls = .ok s' ∧ Tombstoned id s s' := by
  refine ⟨fun action s' h t ht hnew => tombstone_confirms hempty hrun h ht hnew, ?_, ?_⟩
  · intro id r hr hpurging
    obtain ⟨manifest, log, hlog, _, hprogress⟩ := reachable_purging hempty hrun r hr hpurging
    exact ⟨manifest, log, hlog, hprogress, hprogress.one_in_progress⟩
  · intro id r calls hr hpurging hknown hclean henough hrevision
    exact purge_ends hr hpurging hknown hclean henough hrevision

end Purges

/-! ### A purge that ends, and an unknown outcome that is confirmed -/

section Fixed

/-- The hourly automation is cancelled and its workspace is being removed. -/
def purging_steps : List AutomationMutationV1 := staged_steps ++ [cancel_step] ++ purge_steps

/-- A call of the reconciler to a repository that owns nothing any more. -/
def clean_call (n : Nat) (now : UtcTime) : PurgeCall where
  delete := delete_purge_object [] [] true
  next_token := numbered_token n
  now := now
  stops := false

/-- 2026-01-02. -/
def next_day : UtcTime := ⟨63902908800, by decide⟩

theorem workspace_purged : ∃ s s',
    automation_system.run empty_snapshot purging_steps = .ok s ∧
    (purge_system "hourly").run s [clean_call 7 next_day, clean_call 8 next_day] = .ok s' ∧
    Tombstoned "hourly" s s' := by
  have hruns : succeeds (automation_system.run empty_snapshot purging_steps) (fun s =>
      s.val.snapshot_token ≠ numbered_token 7 && s.val.revision = 6 &&
      ((find_record s "hourly").any fun r => r.val.status = .purge_pending &&
        r.val.purge_cleanup_unknown_object_id = none && remaining_calls r = 2) &&
      succeeds (purge_call "hourly" s (clean_call 7 next_day)) fun t =>
        t.val.snapshot_token ≠ numbered_token 8) = true := by
    decide +kernel
  obtain ⟨s, hs, h⟩ := succeeds_iff.mp hruns
  simp only [Bool.and_eq_true, decide_eq_true_eq, Option.any_eq_true] at h
  obtain ⟨⟨⟨hfresh, hrevision⟩, r, hr, ⟨hpurging, hknown⟩, hremaining⟩, h⟩ := h
  have clean (t : AutomationSnapshotV1) (n : Nat) (hn : 16 ≤ (numbered_token n).toList.length)
      (ht : t.val.snapshot_token ≠ numbered_token n) : CleanCall t (clean_call n next_day) :=
    ⟨fun _ => rfl, show 31525372800 ≤ next_day.seconds by decide, hn, ht.symm⟩
  have halong : (purge_system "hourly").Along CleanCall s
      [clean_call 7 next_day, clean_call 8 next_day] := by
    refine ⟨clean s 7 (by decide) hfresh, fun t ht => ⟨clean t 8 (by decide) ?_, fun _ _ => trivial⟩⟩
    obtain ⟨u, hu, hnext⟩ := succeeds_iff.mp h
    obtain rfl := Except.ok.inj (hu.symm.trans ht)
    exact of_decide_eq_true hnext
  obtain ⟨s', hs', hend⟩ := (purge_completeness ⟨rfl, rfl⟩ hs).2.2 "hourly" r _ hr hpurging hknown
    halong (by rw [hremaining]; decide) (by rw [hremaining, hrevision]; decide)
  exact ⟨s, s', hs, hs', hend⟩

/-- The outcome of the workspace's removal is unknown, then confirmed. -/
def confirming_steps : List AutomationMutationV1 := [
  numbered 6 (.record_purge_progress "hourly" "workspace-1" .cleanup_unknown),
  numbered 7 (.record_purge_progress "hourly" "workspace-1" .cleaned)]

/-- An object of unknown outcome is counted as confirmed by a later report of
    its kind's outcome; and a clock before the year 1000 writes no time a
    tombstone takes. -/
theorem unknown_outcome_confirmed : ∃ s r,
    automation_system.run empty_snapshot (purging_steps ++ confirming_steps) = .ok s ∧
    find_record s "hourly" = some r ∧ r.val.purge_confirmed_object_ids = ["workspace-1"] ∧
    r.val.purge_cleanup_unknown_object_id = none ∧
    (∃ e, purge_call "hourly" s (clean_call 9 ⟨0, by decide⟩) = .error e) ∧
    ∃ s', purge_call "hourly" s (clean_call 9 next_day) = .ok s' ∧
      s'.val.tombstones.map AutomationTombstoneV1.automation_id = ["hourly"] := by
  have hruns : succeeds (automation_system.run empty_snapshot (purging_steps ++ confirming_steps))
      (fun s => ((find_record s "hourly").any fun r =>
          r.val.purge_confirmed_object_ids = ["workspace-1"] &&
          r.val.purge_cleanup_unknown_object_id = none) &&
        (!succeeds (purge_call "hourly" s (clean_call 9 ⟨0, by decide⟩)) fun _ => true) &&
        succeeds (purge_call "hourly" s (clean_call 9 next_day)) fun s' =>
          s'.val.tombstones.map AutomationTombstoneV1.automation_id = ["hourly"]) = true := by
    decide +kernel
  obtain ⟨s, hs, h⟩ := succeeds_iff.mp hruns
  simp only [Bool.and_eq_true, decide_eq_true_eq, Option.any_eq_true, Bool.not_eq_true'] at h
  obtain ⟨⟨⟨r, hr, hconfirmed, hknown⟩, hrefused⟩, h⟩ := h
  obtain ⟨s', hs', htombs⟩ := succeeds_iff.mp h
  refine ⟨s, r, hs, hr, hconfirmed, hknown, ?_, s', hs', of_decide_eq_true htombs⟩
  cases hcall : purge_call "hourly" s (clean_call 9 ⟨0, by decide⟩) with
  | error e => exact ⟨e, rfl⟩
  | ok t => simp [hcall, Fallible.succeeds] at hrefused

end Fixed
