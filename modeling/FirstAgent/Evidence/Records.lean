import FirstAgent.Evidence.Frame
import FirstAgent.Evidence.GoalChange

/-! # Stored Evidence

    A record is found under the id of its criterion.  Recording replaces the
    records with the ids it brings and keeps the others, and what is derived
    for a criterion is what its oracle computes from the facts. -/

open Fallible

/-! ### Evidence ids -/

theorem closed_evidence_id_inj {goal_id a b : String} {revision : Int}
    (h : closed_evidence_id goal_id revision a = closed_evidence_id goal_id revision b) :
    a = b := by
  unfold closed_evidence_id at h
  exact (String.append_right_inj _).mp h

theorem GoalFrame.mandatory_subset {goal : GoalFrame} {c : AdmittedCriterion}
    (h : c ∈ goal.mandatory) : c ∈ goal.val.admitted_criteria :=
  (List.mem_filter.mp h).1

/-- The mandatory criteria have evidence ids of their own. -/
theorem GoalFrame.evidence_ids_nodup (goal : GoalFrame) :
    (goal.mandatory.map goal.evidence_id).Nodup := by
  have hids : (goal.mandatory.map fun c => c.val.criterion_id).Nodup :=
    goal.admitted_nodup.sublist (List.filter_sublist.map _)
  have hmap : goal.mandatory.map goal.evidence_id =
      (goal.mandatory.map fun c => c.val.criterion_id).map
        (closed_evidence_id goal.val.goal_id goal.val.revision) := by
    simp [GoalFrame.evidence_id, Function.comp_def]
  rw [hmap]
  exact hids.map fun _ _ => closed_evidence_id_inj

/-- The record is found under the id of its criterion. -/
def EvidenceRecord.keyed (r : EvidenceRecord) : Prop :=
  r.val.evidence_id = closed_evidence_id r.val.goal_id r.val.goal_revision r.val.criterion_id

/-- The record binds the criterion at the current revision. -/
def EvidenceRecord.binds (r : EvidenceRecord) (goal : GoalFrame) (c : AdmittedCriterion) : Prop :=
  r.val.goal_id = goal.val.goal_id ∧ r.val.goal_revision = goal.val.revision ∧
    r.val.criterion_id = c.val.criterion_id

theorem EvidenceRecord.keyed.evidence_id {r : EvidenceRecord} {goal : GoalFrame}
    {c : AdmittedCriterion} (h : r.keyed) (hbinds : r.binds goal c) :
    r.val.evidence_id = goal.evidence_id c := by
  obtain ⟨hid, hrevision, hcriterion⟩ := hbinds
  unfold EvidenceRecord.keyed at h
  rw [h, hid, hrevision, hcriterion]
  rfl

/-! ### What every state checks -/

section States

variable {s : ConversationState} {goal : GoalFrame}

theorem evidence_ids_nodup (s : ConversationState) : s.val.evidence_ids.Nodup := by
  have h := s.valid
  simp only [ConversationStateFields.post_init, ConversationStateFields.check_sequences, bind_eq_ok,
    Py.refuse_value_eq_ok, not_not] at h
  obtain ⟨_, ⟨_, _, _, _, _, _, _, _, _, _, _, _, _, _, _, _, h⟩, _⟩ := h
  exact h

/-- A stored record is determined by its id. -/
theorem evidence_eq_of_id {r r' : EvidenceRecord} (hr : r ∈ s.val.evidence_records)
    (hr' : r' ∈ s.val.evidence_records) (h : r.val.evidence_id = r'.val.evidence_id) : r = r' :=
  List.inj_on_of_nodup_map (evidence_ids_nodup s) hr hr' h

theorem fact_ids_nodup (s : ConversationState) : s.val.fact_ids.Nodup := by
  have h := s.valid
  simp only [ConversationStateFields.post_init, ConversationStateFields.check_sequences, bind_eq_ok,
    Py.refuse_value_eq_ok, not_not] at h
  obtain ⟨_, ⟨_, _, _, _, _, _, _, _, _, h, _⟩, _⟩ := h
  exact h

/-- All stored evidence is evidence of the current revision. -/
theorem evidence_current (hgoal : s.val.goal = some goal) :
    ∀ r ∈ s.val.evidence_records,
      r.val.goal_id = goal.val.goal_id ∧ r.val.goal_revision = goal.val.revision := by
  have h := s.valid
  simp only [ConversationStateFields.post_init, hgoal, ConversationStateFields.check_goal,
    bind_eq_ok, Py.refuse_value_eq_ok] at h
  obtain ⟨_, _, _, ⟨_, _, _, _, _, _, _, _, _, h, _⟩, _⟩ := h
  intro r hr
  by_contra hstale
  exact h ⟨r, hr, by
    by_contra hnot
    push Not at hnot
    exact hstale hnot⟩

theorem evidence_needs_goal (hgoal : s.val.goal = none) : s.val.evidence_records = [] := by
  have h := s.valid
  simp only [ConversationStateFields.post_init, hgoal, ConversationStateFields.check_no_goal,
    bind_eq_ok, Py.refuse_value_eq_ok] at h
  obtain ⟨_, _, _, h, _⟩ := h
  by_contra hne
  exact h (.inr (.inl hne))

theorem stored_record_some {id : String} {r : EvidenceRecord} (h : stored_record s id = some r) :
    r ∈ s.val.evidence_records ∧ r.val.evidence_id = id :=
  ⟨List.mem_of_find?_eq_some h, by simpa using List.find?_some h⟩

theorem stored_record_of_mem {r : EvidenceRecord} (h : r ∈ s.val.evidence_records) :
    stored_record s r.val.evidence_id = some r := by
  obtain ⟨x, hx⟩ : ∃ x, stored_record s r.val.evidence_id = some x := by
    apply Option.isSome_iff_exists.mp
    unfold stored_record
    rw [List.find?_isSome]
    exact ⟨r, h, by simp⟩
  obtain ⟨hmem, hid⟩ := stored_record_some hx
  rw [hx, evidence_eq_of_id hmem h hid]

end States

/-! ### Recording -/

theorem mem_merge_record {records : List EvidenceRecord} {r x : EvidenceRecord} :
    x ∈ merge_record records r ↔
      x = r ∨ x ∈ records ∧ x.val.evidence_id ≠ r.val.evidence_id := by
  unfold merge_record
  split
  next hany =>
    obtain ⟨old, hold, hid⟩ := List.any_eq_true.mp hany
    have hid : old.val.evidence_id = r.val.evidence_id := by simpa using hid
    constructor
    · intro hx
      obtain ⟨y, hy, rfl⟩ := List.mem_map.mp hx
      split
      · exact .inl rfl
      · next hne => exact .inr ⟨hy, hne⟩
    · rintro (rfl | ⟨hx, hne⟩)
      · exact List.mem_map.mpr ⟨old, hold, if_pos hid⟩
      · exact List.mem_map.mpr ⟨x, hx, if_neg hne⟩
  next hany =>
    have hall : ∀ y ∈ records, y.val.evidence_id ≠ r.val.evidence_id := by
      intro y hy heq
      exact hany (List.any_eq_true.mpr ⟨y, hy, by simpa using heq⟩)
    rw [List.mem_append, List.mem_singleton]
    constructor
    · rintro (hx | rfl)
      · exact .inr ⟨hx, hall x hx⟩
      · exact .inl rfl
    · rintro (rfl | ⟨hx, _⟩)
      · exact .inr rfl
      · exact .inl hx

/-- Recording brings the new records and keeps those with other ids. -/
theorem mem_recorded {added : List EvidenceRecord}
    (hnodup : (added.map fun r => r.val.evidence_id).Nodup) {records : List EvidenceRecord}
    {x : EvidenceRecord} :
    x ∈ added.foldl merge_record records ↔
      x ∈ added ∨ x ∈ records ∧ ∀ r ∈ added, x.val.evidence_id ≠ r.val.evidence_id := by
  induction added generalizing records with
  | nil => simp
  | cons a added ih =>
    obtain ⟨hfresh, hrest⟩ := List.nodup_cons.mp hnodup
    have hfresh : ∀ r ∈ added, a.val.evidence_id ≠ r.val.evidence_id := by
      intro r hr heq
      exact hfresh (List.mem_map.mpr ⟨r, hr, heq.symm⟩)
    rw [List.foldl_cons, ih hrest, mem_merge_record, List.mem_cons, List.forall_mem_cons]
    constructor
    · rintro (hx | ⟨rfl | ⟨hx, hne⟩, hother⟩)
      · exact .inl (.inr hx)
      · exact .inl (.inl rfl)
      · exact .inr ⟨hx, hne, hother⟩
    · rintro ((rfl | hx) | ⟨hx, hne, hother⟩)
      · exact .inr ⟨.inl rfl, hfresh⟩
      · exact .inl hx
      · exact .inr ⟨.inr ⟨hx, hne⟩, hother⟩

/-! ### Derived records -/

/-- The record is what the oracle of the criterion computes from the facts. -/
def derives (s : ConversationState) (goal : GoalFrame) (c : AdmittedCriterion)
    (r : EvidenceRecord) : Prop :=
  ∃ checked_at proof, prove_criterion s goal c checked_at = .ok proof ∧
    r.val = record_fields goal c r.val.observed_at proof

section Derived

variable {s : ConversationState} {goal : GoalFrame} {c : AdmittedCriterion} {r : EvidenceRecord}
  {observed_at : String}

theorem derives.binds (h : derives s goal c r) : r.binds goal c := by
  obtain ⟨_, _, _, hr⟩ := h
  unfold EvidenceRecord.binds
  rw [hr]
  exact ⟨rfl, rfl, rfl⟩

theorem derives.evidence_id (h : derives s goal c r) : r.val.evidence_id = goal.evidence_id c := by
  obtain ⟨_, _, _, hr⟩ := h
  rw [hr]
  rfl

theorem derives.keyed (h : derives s goal c r) : r.keyed := by
  obtain ⟨_, _, _, hr⟩ := h
  unfold EvidenceRecord.keyed
  rw [hr]
  rfl

theorem derives.passed (h : derives s goal c r) : r.val.passed = true := by
  obtain ⟨_, _, _, hr⟩ := h
  rw [hr]
  rfl

theorem derive_record_ok (h : derive_record s goal observed_at c = .ok r) : derives s goal c r := by
  unfold derive_record at h
  split at h
  · simp only [bind_eq_ok, Checked.make_eq_ok] at h
    obtain ⟨proof, hproof, hr⟩ := h
    exact ⟨observed_at, proof, hproof, by rw [hr]; rfl⟩
  · next existing _ =>
    simp only [bind_eq_ok, Checked.make_eq_ok] at h
    obtain ⟨proof, hproof, derived, hderived, h⟩ := h
    unfold refresh_record at h
    rcases ite_eq_ok.mp h with ⟨rfl, h⟩ | ⟨_, h⟩
    · rw [← pure_eq_ok.mp h]
      exact ⟨existing.val.observed_at, proof, hproof, hderived⟩
    · simp only [bind_eq_ok, Checked.make_eq_ok, Py.refuse_value_eq_ok] at h
      obtain ⟨_, _, hr⟩ := h
      refine ⟨existing.val.observed_at, proof, hproof, ?_⟩
      rw [hr, hderived]
      rfl

end Derived

theorem forall₂_of_mem_left {α β : Type} {R : α → β → Prop} {as : List α} {bs : List β}
    (h : List.Forall₂ R as bs) : ∀ a ∈ as, ∃ b ∈ bs, R a b := by
  induction h with
  | nil => simp
  | @cons a b _ _ hab _ ih =>
    rw [List.forall_mem_cons]
    refine ⟨⟨b, List.mem_cons_self, hab⟩, ?_⟩
    intro x hx
    obtain ⟨y, hy, hxy⟩ := ih x hx
    exact ⟨y, List.mem_cons_of_mem _ hy, hxy⟩

theorem forall₂_of_mem_right {α β : Type} {R : α → β → Prop} {as : List α} {bs : List β}
    (h : List.Forall₂ R as bs) : ∀ b ∈ bs, ∃ a ∈ as, R a b :=
  forall₂_of_mem_left h.flip

/-- What is derived, criterion by criterion. -/
theorem mapM_derived {s : ConversationState} {goal : GoalFrame} {observed_at : String}
    {criteria : List AdmittedCriterion} {records : List EvidenceRecord}
    (h : criteria.mapM (derive_record s goal observed_at) = .ok records) :
    List.Forall₂ (fun c r => derive_record s goal observed_at c = .ok r) criteria records := by
  induction criteria generalizing records with
  | nil =>
    rw [List.mapM_nil, pure_eq_ok] at h
    rw [← h]
    exact .nil
  | cons c criteria ih =>
    simp only [List.mapM_cons, bind_eq_ok, pure_eq_ok] at h
    obtain ⟨r, hr, rest, hrest, rfl⟩ := h
    exact .cons hr (ih hrest)

theorem derive_evidence_ok {s : ConversationState} {claim : CompletionClaim} {observed_at : String}
    {records : List EvidenceRecord} (h : derive_evidence s claim observed_at = .ok records) :
    ∃ goal, s.val.goal = some goal ∧ check_claim s goal claim = .ok () ∧
      List.Forall₂ (fun c r => derive_record s goal observed_at c = .ok r)
        goal.mandatory records := by
  simp only [derive_evidence, bind_eq_ok, Py.expect_value_eq_ok] at h
  obtain ⟨goal, hgoal, _, hclaim, hrecords⟩ := h
  exact ⟨goal, hgoal, hclaim, mapM_derived hrecords⟩

theorem derived_ids {s : ConversationState} {goal : GoalFrame} {observed_at : String}
    {criteria : List AdmittedCriterion} {records : List EvidenceRecord}
    (h : List.Forall₂ (fun c r => derive_record s goal observed_at c = .ok r) criteria records) :
    records.map (fun r => r.val.evidence_id) = criteria.map goal.evidence_id := by
  induction h with
  | nil => rfl
  | cons hr _ ih => rw [List.map_cons, List.map_cons, ih, (derive_record_ok hr).evidence_id]
