import FirstAgent.Automation.Claims

/-! # Purging an Automation

    A purge removes the objects of its manifest one at a time: each is started,
    then confirmed by the outcome its kind requires, and the tombstone is
    written when all of them are confirmed.  An object whose outcome is unknown
    is not started again; it holds the purge up until its removal is confirmed
    after all. -/

open Fallible Controlled

/-! ### The log of a purge -/

/-- Add a mutation to the log of the automation's purge. -/
def log_mutation (id : String)
    (log : Option (PurgeOwnershipManifestV1 × List AutomationMutation))
    (action : AutomationMutationV1) : Option (PurgeOwnershipManifestV1 × List AutomationMutation) :=
  match action.val.mutation with
  | .begin_purge i manifest _ => if i = id then some (manifest, []) else log
  | m => if m.automation_id = id then log.map fun (manifest, ms) => (manifest, ms ++ [m]) else log

/-- The manifest that the last begin of a purge fixed, and the mutations of the
    automation since. -/
def purge_log (id : String) (actions : List AutomationMutationV1) :
    Option (PurgeOwnershipManifestV1 × List AutomationMutation) :=
  actions.foldl (log_mutation id) none

theorem purge_log_snoc (id : String) (actions : List AutomationMutationV1)
    (action : AutomationMutationV1) :
    purge_log id (actions ++ [action]) = log_mutation id (purge_log id actions) action := by
  simp [purge_log]

/-- `a` happened, and `b` after it. -/
def Before (a b : AutomationMutation) (log : List AutomationMutation) : Prop :=
  [a, b].Sublist log

theorem before_snoc {a b c : AutomationMutation} {log : List AutomationMutation} :
    Before a b (log ++ [c]) ↔ Before a b log ∨ a ∈ log ∧ b = c := by
  constructor
  · intro h
    obtain ⟨xs, ys, hsplit, hxs, hys⟩ := List.sublist_append_iff.mp h
    rcases List.sublist_singleton.mp hys with rfl | rfl
    · left
      rw [List.append_nil] at hsplit
      rw [Before, hsplit]
      exact hxs
    · right
      obtain ⟨rfl, rfl⟩ : xs = [a] ∧ c = b := by
        have := hsplit
        rw [show [a, b] = [a] ++ [b] from rfl] at this
        obtain ⟨h1, h2⟩ := List.append_inj' this rfl
        exact ⟨h1.symm, (List.singleton_inj.mp h2).symm⟩
      exact ⟨List.singleton_sublist.mp hxs, rfl⟩
  · rintro (h | ⟨ha, rfl⟩)
    · exact h.trans (List.sublist_append_left _ _)
    · exact List.Sublist.append (List.singleton_sublist.mpr ha) (List.Sublist.refl [b])

/-! ### Progress -/

/-- What the log of a purge says about the progress its record keeps. -/
structure PurgeProgress (id : String) (manifest : PurgeOwnershipManifestV1)
    (log : List AutomationMutation) (r : AutomationRecordV1) : Prop where
  /-- the object in progress was started -/
  active : ∀ i, r.val.purge_active_object_id = some i → .start_purge_object id i ∈ log
  /-- what was started is confirmed or in progress -/
  started : ∀ i, .start_purge_object id i ∈ log →
    i ∈ r.val.purge_confirmed_object_ids ∨ r.val.purge_active_object_id = some i
  /-- a confirmed object was started, then confirmed -/
  confirmed : ∀ o ∈ manifest.val.objects, o.val.object_id ∈ r.val.purge_confirmed_object_ids →
    Before (.start_purge_object id o.val.object_id)
      (.record_purge_progress id o.val.object_id o.val.kind.confirming) log
  /-- ... once -/
  once : ∀ o ∈ manifest.val.objects,
    log.count (.record_purge_progress id o.val.object_id o.val.kind.confirming) =
      if o.val.object_id ∈ r.val.purge_confirmed_object_ids then 1 else 0
  /-- an unknown outcome stays until the object is confirmed -/
  unknown : ∀ i, .record_purge_progress id i .cleanup_unknown ∈ log →
    i ∈ r.val.purge_confirmed_object_ids ∨ r.val.purge_cleanup_unknown_object_id = some i
  /-- an object of unknown outcome is not started again -/
  not_again : ∀ i, ¬ Before (.record_purge_progress id i .cleanup_unknown)
    (.start_purge_object id i) log

/-- The purge of the automation, if one is going on, has made the progress that
    its record says. -/
def Purging (id : String) (actions : List AutomationMutationV1) (s : AutomationSnapshotV1) : Prop :=
  ∀ r, find_record s id = some r → r.val.status = .purge_pending →
    ∃ manifest log, purge_log id actions = some (manifest, log) ∧
      r.val.purge_manifest = some manifest ∧ PurgeProgress id manifest log r

section Progress

variable {s s' : AutomationSnapshotV1} {r r' : AutomationRecordV1} {m : AutomationMutation}
  {action : AutomationMutationV1} {actions : List AutomationMutationV1} {id i : String}
  {manifest : PurgeOwnershipManifestV1} {log : List AutomationMutation}

theorem confirming_known (k : PurgeObjectKind) : k.confirming ≠ .cleanup_unknown := by
  cases k <;> decide

/-- What the constructor checks of a purge's progress. -/
structure AutomationRecordFields.ProgressValid (r : AutomationRecordFields)
    (manifest : PurgeOwnershipManifestV1) : Prop where
  ids : ∀ i ∈ r.purge_confirmed_object_ids, PyText.is_opaque_id i = true
  sorted : PyText.sorted_unique r.purge_confirmed_object_ids = true
  bound : ∀ i ∈ r.purge_confirmed_object_ids, i ∈ manifest.val.object_ids
  active : ∀ i, r.purge_active_object_id = some i →
    PyText.is_opaque_id i = true ∧ i ∈ manifest.val.object_ids
  unknown : ∀ i, r.purge_cleanup_unknown_object_id = some i →
    PyText.is_opaque_id i = true ∧ i ∈ manifest.val.object_ids
  fresh : ∀ i, r.purge_active_object_id = some i → i ∉ r.purge_confirmed_object_ids
  held : ∀ i, r.purge_cleanup_unknown_object_id = some i → r.purge_active_object_id = some i

theorem AutomationRecordFields.check_progress_eq_ok {r : AutomationRecordFields} :
    r.check_progress manifest = .ok () ↔ r.ProgressValid manifest := by
  simp only [check_progress, check_object, bind_eq_ok, Py.refuse_value_eq_ok, not_or,
    Bool.not_eq_false, not_and, not_not, exists_const, Bool.not_eq_true, Option.any_eq_false,
    List.any_eq_false, Bool.or_eq_false_iff, Bool.not_eq_false',
    List.contains_eq_mem, decide_eq_true_eq, decide_eq_false_iff_not]
  constructor
  · rintro ⟨⟨h1, h2, h3⟩, h4, h5, h6, h7⟩
    exact ⟨h1, h2, h3, h4, h5, h6, fun i hi => by rw [h7 (by simp [hi]), hi]⟩
  · rintro ⟨h1, h2, h3, h4, h5, h6, h7⟩
    refine ⟨⟨h1, h2, h3⟩, h4, h5, h6, fun h => ?_⟩
    obtain ⟨i, hi⟩ := Option.isSome_iff_exists.mp h
    rw [hi, h7 i hi]

theorem progress_checks (hmanifest : r.val.purge_manifest = some manifest) :
    r.val.ProgressValid manifest := by
  have hpurge := r.checks.purge
  simp only [AutomationRecordFields.check_purge, hmanifest, Option.elim_some, bind_eq_ok] at hpurge
  obtain ⟨_, _, hprogress⟩ := hpurge
  exact AutomationRecordFields.check_progress_eq_ok.mp hprogress

/-- A purging record has its manifest. -/
theorem purging_manifest (h : r.val.status = .purge_pending) :
    ∃ manifest, r.val.purge_manifest = some manifest := by
  have hstatus := r.checks.status
  simp only [AutomationRecordFields.check_status, h, Py.refuse_value_eq_ok, not_or] at hstatus
  obtain ⟨_, _, hmanifest, _⟩ := hstatus
  exact Option.isSome_iff_exists.mp (by simpa [← Option.isSome_iff_ne_none] using hmanifest)

theorem manifest_sorted (manifest : PurgeOwnershipManifestV1) :
    PyText.sorted_unique manifest.val.object_ids = true := by
  have hvalid := manifest.valid
  simp only [PurgeOwnershipManifestFields.post_init, bind_eq_ok, Py.refuse_value_eq_ok,
    Bool.not_eq_false] at hvalid
  obtain ⟨_, _, _, _, _, _, _, _, _, hsorted, _⟩ := hvalid
  exact hsorted

/-- The objects of a manifest are told apart by their ids. -/
theorem object_of_id {o p : PurgeOwnedObjectV1}
    (hsorted : PyText.sorted_unique manifest.val.object_ids = true) (hp : p ∈ manifest.val.objects)
    (ho : o ∈ manifest.val.objects) (h : p.val.object_id = o.val.object_id) : p = o := by
  have hnodup : manifest.val.object_ids.Nodup :=
    (PyText.sorted_unique_iff.mp hsorted).imp ne_of_lt
  exact List.inj_on_of_nodup_map hnodup hp ho h

/-- A purge that has just begun. -/
theorem progress_begun (hconfirmed : r.val.purge_confirmed_object_ids = [])
    (hactive : r.val.purge_active_object_id = none) : PurgeProgress id manifest [] r where
  active := by simp [hactive]
  started := by simp
  confirmed := by simp [hconfirmed]
  once := by simp [hconfirmed]
  unknown := by simp
  not_again := by simp [Before]

/-- Starting an object that is pending, or the one in progress again. -/
theorem PurgeProgress.object_started (h : PurgeProgress id manifest log r)
    (hconfirmed : r'.val.purge_confirmed_object_ids = r.val.purge_confirmed_object_ids)
    (hunknown : r.val.purge_cleanup_unknown_object_id = none)
    (hidle : ∀ j, r.val.purge_active_object_id = some j → j = i)
    (hactive : r'.val.purge_active_object_id = some i)
    (hpending : i ∉ r.val.purge_confirmed_object_ids) :
    PurgeProgress id manifest (log ++ [.start_purge_object id i]) r' where
  active := by
    intro j hj
    obtain rfl : i = j := by simpa [hactive] using hj
    simp
  started := by
    intro j hj
    rw [hconfirmed, hactive]
    rcases List.mem_append.mp hj with hj | hj
    · rcases h.started j hj with hj | hj
      · exact .inl hj
      · exact .inr (by rw [hidle j hj])
    · obtain rfl : j = i := by simpa using hj
      exact .inr rfl
  confirmed := by
    intro o ho hc
    rw [hconfirmed] at hc
    exact before_snoc.mpr (.inl (h.confirmed o ho hc))
  once := by
    intro o ho
    rw [hconfirmed, ← h.once o ho]
    simp [List.count_append]
  unknown := by
    intro j hj
    have hj : .record_purge_progress id j .cleanup_unknown ∈ log := by simpa using hj
    rw [hconfirmed]
    rcases h.unknown j hj with hj | hj
    · exact .inl hj
    · rw [hunknown] at hj
      cases hj
  not_again := by
    intro j hj
    rcases before_snoc.mp hj with hj | ⟨hmem, heq⟩
    · exact h.not_again j hj
    · -- an unknown object is confirmed by now, or still holds the purge up
      obtain rfl : j = i := by simpa using heq
      rcases h.unknown j hmem with hdone | hheld
      · exact hpending hdone
      · rw [hunknown] at hheld
        cases hheld

/-- The outcome of the object in progress is unknown. -/
theorem PurgeProgress.object_unknown (h : PurgeProgress id manifest log r)
    (hactive : r.val.purge_active_object_id = some i)
    (hnew : r'.val = { r.val with purge_cleanup_unknown_object_id := some i })
    (hheld : ∀ j, r.val.purge_cleanup_unknown_object_id = some j →
      r.val.purge_active_object_id = some j) :
    PurgeProgress id manifest (log ++ [.record_purge_progress id i .cleanup_unknown]) r' where
  active := by
    intro j hj
    exact List.mem_append_left _ (h.active j (by simpa [hnew] using hj))
  started := by
    intro j hj
    simpa [hnew] using h.started j (by simpa using hj)
  confirmed := by
    intro o ho hc
    exact before_snoc.mpr (.inl (h.confirmed o ho (by simpa [hnew] using hc)))
  once := by
    intro o ho
    have hne := confirming_known o.val.kind
    simp [hnew, List.count_append, h.once o ho, hne.symm]
  unknown := by
    intro j hj
    rw [hnew]
    rcases List.mem_append.mp hj with hj | hj
    · rcases h.unknown j hj with hj | hj
      · exact .inl hj
      · have := (hheld j hj).symm.trans hactive
        exact .inr (by simpa using this.symm)
    · obtain rfl : j = i := by simpa using hj
      exact .inr rfl
  not_again := by
    intro j hj
    rcases before_snoc.mp hj with hj | ⟨_, heq⟩
    · exact h.not_again j hj
    · cases heq

/-- The object in progress is confirmed. -/
theorem PurgeProgress.object_confirmed {o : PurgeOwnedObjectV1}
    (h : PurgeProgress id manifest log r) (hsorted : PyText.sorted_unique manifest.val.object_ids = true)
    (ho : o ∈ manifest.val.objects) (hactive : r.val.purge_active_object_id = some o.val.object_id)
    (hfresh : o.val.object_id ∉ r.val.purge_confirmed_object_ids)
    (hheld : ∀ j, r.val.purge_cleanup_unknown_object_id = some j →
      r.val.purge_active_object_id = some j)
    (hnew : r'.val = { r.val with
      purge_confirmed_object_ids :=
        (r.val.purge_confirmed_object_ids ++ [o.val.object_id]).insertionSort (· ≤ ·)
      purge_active_object_id := none
      purge_cleanup_unknown_object_id := none }) :
    PurgeProgress id manifest
      (log ++ [.record_purge_progress id o.val.object_id o.val.kind.confirming]) r' where
  active := by simp [hnew]
  started := by
    intro j hj
    have hj : .start_purge_object id j ∈ log := by simpa using hj
    left
    simp only [hnew, List.mem_insertionSort, List.mem_append, List.mem_singleton]
    rcases h.started j hj with hj | hj
    · exact .inl hj
    · exact .inr (Option.some.inj (hj.symm.trans hactive))
  confirmed := by
    intro p hp hc
    simp only [hnew, List.mem_insertionSort, List.mem_append, List.mem_singleton] at hc
    rcases hc with hc | hc
    · exact before_snoc.mpr (.inl (h.confirmed p hp hc))
    · obtain rfl := object_of_id hsorted hp ho hc
      exact before_snoc.mpr (.inr ⟨h.active _ hactive, rfl⟩)
  once := by
    intro p hp
    simp only [hnew, List.mem_insertionSort, List.mem_append, List.mem_singleton,
      List.count_append, h.once p hp, List.count_singleton]
    by_cases heq : p.val.object_id = o.val.object_id
    · obtain rfl := object_of_id hsorted hp ho heq
      simp [hfresh]
    · have hne : o.val.object_id ≠ p.val.object_id := fun h => heq h.symm
      simp [heq, hne]
  unknown := by
    intro j hj
    have hj : .record_purge_progress id j .cleanup_unknown ∈ log := by
      have hne := (confirming_known o.val.kind).symm
      simpa [hne] using hj
    left
    simp only [hnew, List.mem_insertionSort, List.mem_append, List.mem_singleton]
    rcases h.unknown j hj with hj | hj
    · exact .inl hj
    · exact .inr (Option.some.inj ((hheld j hj).symm.trans hactive))
  not_again := by
    intro j hj
    rcases before_snoc.mp hj with hj | ⟨_, heq⟩
    · exact h.not_again j hj
    · cases heq

/-- Of the objects of a purge at most one is started and not yet confirmed. -/
theorem PurgeProgress.one_in_progress (h : PurgeProgress id manifest log r) (i j : String)
    (hi : .start_purge_object id i ∈ log) (hj : .start_purge_object id j ∈ log)
    (hci : i ∉ r.val.purge_confirmed_object_ids) (hcj : j ∉ r.val.purge_confirmed_object_ids) :
    i = j := by
  have hai := (h.started i hi).resolve_left hci
  have haj := (h.started j hj).resolve_left hcj
  exact Option.some.inj (hai.symm.trans haj)

/-- A mutation that changes the automation keeps the progress of its purge. -/
theorem RecordChange.purging (h : RecordChange s r r' m) (hid : m.automation_id = id)
    (hr : r.val.status = .purge_pending → ∃ manifest log, purge_log id actions = some (manifest, log) ∧
      r.val.purge_manifest = some manifest ∧ PurgeProgress id manifest log r)
    (hm : action.val.mutation = m) (hstatus : r'.val.status = .purge_pending) :
    ∃ manifest log, purge_log id (actions ++ [action]) = some (manifest, log) ∧
      r'.val.purge_manifest = some manifest ∧ PurgeProgress id manifest log r' := by
  rw [purge_log_snoc, log_mutation, hm]
  cases h with
  | begin_purge i _ manifest _ _ hnew =>
    obtain rfl : i = id := hid
    refine ⟨manifest, [], by simp, by rw [hnew], progress_begun (by rw [hnew]) (by rw [hnew])⟩
  | start_object i o manifest hpurging hmanifest hknown hidle hpending hnew =>
    obtain rfl : i = id := hid
    obtain ⟨manifest', log, hlog, hmanifest', hprogress⟩ := hr hpurging
    refine ⟨manifest', log ++ [.start_purge_object i o],
      by simp [hlog, AutomationMutation.automation_id],
      by rw [hnew]; exact hmanifest', ?_⟩
    exact hprogress.object_started (by rw [hnew]) hknown (by simp [hidle]) (by rw [hnew]) hpending.2
  | restart_object i o hpurging hknown hactive hnew =>
    obtain rfl : i = id := hid
    obtain ⟨manifest', log, hlog, hmanifest', hprogress⟩ := hr hpurging
    refine ⟨manifest', log ++ [.start_purge_object i o],
      by simp [hlog, AutomationMutation.automation_id],
      by rw [hnew]; exact hmanifest', ?_⟩
    have hchecks := progress_checks hmanifest'
    exact hprogress.object_started (by rw [hnew]) hknown
      (fun j hj => Option.some.inj (hj.symm.trans hactive)) (by rw [hnew]; exact hactive)
      (hchecks.fresh o hactive)
  | object_unknown i o hpurging hactive hnew =>
    obtain rfl : i = id := hid
    obtain ⟨manifest', log, hlog, hmanifest', hprogress⟩ := hr hpurging
    refine ⟨manifest', log ++ [.record_purge_progress i o .cleanup_unknown],
      by simp [hlog, AutomationMutation.automation_id],
      by rw [hnew]; exact hmanifest', ?_⟩
    exact hprogress.object_unknown hactive hnew (progress_checks hmanifest').held
  | object_confirmed i o manifest p hpurging hactive hmanifest hobject hnew =>
    obtain rfl : i = id := hid
    obtain ⟨manifest', log, hlog, hmanifest', hprogress⟩ := hr hpurging
    obtain rfl := Option.some.inj (hmanifest.symm.trans hmanifest')
    obtain rfl : p.val.object_id = o := by simpa using List.find?_some hobject
    have hchecks := progress_checks hmanifest
    refine ⟨manifest, log ++ [.record_purge_progress i p.val.object_id p.val.kind.confirming],
      by simp [hlog, AutomationMutation.automation_id],
      by rw [hnew]; exact hmanifest, ?_⟩
    exact hprogress.object_confirmed (manifest_sorted manifest) (List.mem_of_find?_eq_some hobject)
      hactive (hchecks.fresh _ hactive) hchecks.held hnew
  -- no other change leaves a purging record
  | approve _ _ _ _ _ _ _ hnew =>
    rw [hnew] at hstatus
    cases hs : r.val.status <;> simp [hs, approved_status] at hstatus
  | stage _ _ hopen _ hnew => exact absurd (by simpa [hnew] using hstatus) hopen.2
  | pause _ _ hnew | resume _ _ _ _ hnew | unresolve _ _ _ _ _ _ _ _ hnew => simp [hnew] at hstatus
  | cancel _ _ hnew =>
    rw [hnew] at hstatus
    cases hc : r.val.active_claim <;> simp [hc, canceled_status] at hstatus
  | claim _ _ hactive _ _ _ _ _ _ hnew => simp [hnew, hactive] at hstatus
  | dispatch _ _ _ _ hclaim _ _ hnew | run _ _ _ _ hclaim _ _ hnew =>
    have hnone := (purging_empty (r := r) (by simpa [hnew] using hstatus)).1
    rw [hclaim] at hnone
    cases hnone
  | close _ _ _ _ _ _ _ _ _ _ _ hnew =>
    rw [hnew] at hstatus
    cases hs : r.val.status <;> simp [hs, closed_status] at hstatus

/-- A mutation of another automation is not logged. -/
theorem log_mutation_other {log : Option (PurgeOwnershipManifestV1 × List AutomationMutation)}
    (h : action.val.mutation.automation_id ≠ id) : log_mutation id log action = log := by
  unfold log_mutation
  split
  · rename_i i manifest _ hm
    rw [hm] at h
    exact if_neg h
  · exact if_neg h

theorem purging_step (h : handle s action = .ok s') (hs : Purging id actions s) :
    Purging id (actions ++ [action]) s' := by
  have hchange := (handle_change h).change
  generalize hm : action.val.mutation = m at hchange
  intro q hq hstatus
  -- another automation's mutation changes neither the record nor the log
  have other (hne : id ≠ m.automation_id) (hfound : find_record s' id = find_record s id) :
      ∃ manifest log, purge_log id (actions ++ [action]) = some (manifest, log) ∧
        q.val.purge_manifest = some manifest ∧ PurgeProgress id manifest log q := by
    rw [purge_log_snoc, log_mutation_other (by rw [hm]; exact hne.symm)]
    exact hs q (hfound ▸ hq) hstatus
  cases hchange with
  | create body r' _ hnew _ _ hfound =>
    by_cases heq : id = body.val.automation_id
    · rw [hfound, if_pos heq] at hq
      obtain rfl := Option.some.inj hq
      simp [hnew] at hstatus
    · exact other heq (by rw [hfound, if_neg heq])
  | change _ r r' hr _ hrecord _ hfound =>
    by_cases heq : id = m.automation_id
    · rw [hfound, if_pos heq] at hq
      obtain rfl := Option.some.inj hq
      exact hrecord.purging heq.symm (hs r (heq ▸ hr)) hm hstatus
    · exact other heq (by rw [hfound, if_neg heq])
  | finish i _ _ _ _ _ _ _ _ _ _ _ _ hfound =>
    by_cases heq : id = i
    · rw [hfound, if_pos heq] at hq
      cases hq
    · exact other heq (by rw [hfound, if_neg heq])

end Progress

/-! ### Tombstones -/

section Tombstones

variable {s₀ s s' : AutomationSnapshotV1} {action : AutomationMutationV1}
  {actions : List AutomationMutationV1} {id : String}

theorem keep_tombstones_sublist (ts : List AutomationTombstoneV1) :
    (keep_tombstones ts).Sublist ts := by
  unfold keep_tombstones
  split
  · split
    · exact List.filter_sublist
    · exact List.Sublist.refl ts
  · exact List.Sublist.refl ts

theorem oldest_tombstone_mem {ts : List AutomationTombstoneV1} {t : AutomationTombstoneV1}
    (h : oldest_tombstone ts = some t) : t ∈ ts := by
  induction ts generalizing t with
  | nil => cases h
  | cons u us ih =>
    simp only [oldest_tombstone] at h
    split at h
    · obtain rfl := Option.some.inj h
      exact List.mem_cons_self
    · rename_i v hv
      split at h
      · obtain rfl := Option.some.inj h
        exact List.mem_cons_of_mem _ (ih hv)
      · obtain rfl := Option.some.inj h
        exact List.mem_cons_self

theorem oldest_tombstone_isSome (ts : List AutomationTombstoneV1) (h : ts ≠ []) :
    ∃ t, oldest_tombstone ts = some t := by
  cases ts with
  | nil => exact absurd rfl h
  | cons u us =>
    simp only [oldest_tombstone]
    split
    · exact ⟨u, rfl⟩
    · split
      · exact ⟨_, rfl⟩
      · exact ⟨u, rfl⟩

/-- One more tombstone than fits is brought back to the bound. -/
theorem keep_tombstones_length {ts : List AutomationTombstoneV1} (h : ts.length ≤ 129) :
    (keep_tombstones ts).length ≤ 128 := by
  unfold keep_tombstones
  by_cases hfull : 128 < ts.length
  · rw [if_pos hfull]
    obtain ⟨t, ht⟩ := oldest_tombstone_isSome ts (by rintro rfl; simp at hfull)
    rw [ht]
    have hless : (ts.filter fun u => u.val.automation_id ≠ t.val.automation_id).length < ts.length :=
      List.length_filter_lt_length_iff_exists.mpr ⟨t, oldest_tombstone_mem ht, by simp⟩
    simp only
    omega
  · rw [if_neg hfull]
    omega

theorem reachable_purging (hempty : s₀.val.is_empty)
    (hrun : automation_system.run s₀ actions = .ok s) : Purging id actions s := by
  have hstart : Purging id [] s₀ := by
    intro r hr
    rw [records_of_empty hempty] at hr
    cases hr
  simpa using System.run_history (P := Purging id)
    (fun pre t action t' ht h => purging_step h ht) [] hstart hrun

/-- A new tombstone is that of an automation whose manifest is confirmed. -/
theorem tombstone_confirms (hempty : s₀.val.is_empty)
    (hrun : automation_system.run s₀ actions = .ok s) (h : handle s action = .ok s')
    {t : AutomationTombstoneV1} (ht : t ∈ s'.val.tombstones) (hnew : t ∉ s.val.tombstones) :
    ∃ manifest log, purge_log t.val.automation_id actions = some (manifest, log) ∧
      ∀ o ∈ manifest.val.objects,
        Before (.start_purge_object t.val.automation_id o.val.object_id)
          (.record_purge_progress t.val.automation_id o.val.object_id o.val.kind.confirming) log ∧
        log.count (.record_purge_progress t.val.automation_id o.val.object_id
          o.val.kind.confirming) = 1 := by
  have hchange := (handle_change h).change
  generalize action.val.mutation = m at hchange
  cases hchange with
  | create _ _ _ _ _ htombs _ => exact absurd (htombs ▸ ht) hnew
  | change _ _ _ _ _ _ htombs _ => exact absurd (htombs ▸ ht) hnew
  | finish id _ r manifest u hr hpurging hmanifest _ _ hconfirmed hu htombs _ =>
    rw [htombs] at ht
    have hkept := (keep_tombstones_sublist _).subset (KeyedStore.mem_sort.mp ht)
    obtain rfl : t = u := by
      rcases List.mem_append.mp hkept with hold | hold
      · exact absurd hold hnew
      · simpa using hold
    obtain ⟨manifest', log, hlog, hmanifest', hprogress⟩ :=
      reachable_purging hempty hrun r (hu ▸ hr) hpurging
    obtain rfl := Option.some.inj (hmanifest.symm.trans hmanifest')
    refine ⟨manifest, log, hlog, fun o ho => ?_⟩
    have hmem : o.val.object_id ∈ r.val.purge_confirmed_object_ids := by
      rw [hconfirmed]
      exact List.mem_map_of_mem ho
    exact ⟨hprogress.confirmed o ho hmem, by rw [hprogress.once o ho, if_pos hmem]⟩

end Tombstones
